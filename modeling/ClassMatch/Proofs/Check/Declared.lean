import ClassMatch.Proofs.Bare
import ClassMatch.Proofs.Check.Class
import ClassMatch.Proofs.Descriptor.Reading

/-!
Classes whose methods are told apart by their declarations alone. A declaration is a name followed
by a descriptor without anything between them, so it may be possible to take it apart in more than
one way; that takes a parenthesis in the name of a method and one in the name of a class.
-/
namespace ClassMatch

variable {ctx : Context}

theorem BaseType.letter_ne_paren (base : BaseType) : '(' ≠ base.letter := by
  cases base <;> decide

theorem RefType.Spelled.paren_mem {type : RefType} {text : List Char} (h : type.Spelled text) :
    '(' ∈ text ↔ ∃ name ∈ type.className?, '(' ∈ name.toList := by
  obtain ⟨-, brackets, -, rfl⟩ := h
  rw [List.mem_append, List.mem_replicate]
  rcases type with name | ⟨extra, name⟩ | ⟨extra, element⟩
  · simp [elementChars, className?, objectChars]
  · simp [elementChars, className?, objectChars]
  · simp [elementChars, className?, BaseType.letter_ne_paren]

theorem FieldType.Spelled.paren_mem {type : FieldType} {text : List Char} (h : type.Spelled text) :
    '(' ∈ text ↔ ∃ name ∈ type.className?, '(' ∈ name.toList := by
  cases type with
  | base base =>
    obtain rfl : text = [base.letter] := h
    simp [className?, BaseType.letter_ne_paren]
  | ref type => exact RefType.Spelled.paren_mem h

theorem FieldType.SpelledInTurn.paren_mem {types : List FieldType} {text : List Char}
    (h : SpelledInTurn types text) :
    '(' ∈ text ↔ ∃ type ∈ types, ∃ name ∈ type.className?, '(' ∈ name.toList := by
  induction h with
  | nil => simp
  | cons htype _ ih => rw [List.mem_append, htype.paren_mem, ih, List.exists_mem_cons_iff]

theorem FieldType.SpelledResult.paren_mem {result : Option FieldType} {text : List Char}
    (h : SpelledResult result text) :
    '(' ∈ text ↔ ∃ name ∈ result.bind className?, '(' ∈ name.toList := by
  cases result with
  | none =>
    obtain rfl : text = ['V'] := h
    simp
  | some type => exact FieldType.Spelled.paren_mem h

/-- Behind the one that begins a descriptor, only class names hold opening parentheses. -/
theorem MethodDescriptor.Spelled.exists_eq_cons {d : MethodDescriptor} {text : List Char}
    (h : d.Spelled text) :
    ∃ tail, text = '(' :: tail ∧ ('(' ∈ tail ↔ ∃ name ∈ d.classNames, '(' ∈ name.toList) := by
  obtain ⟨front, back, hfront, hback, rfl⟩ := h
  refine ⟨front ++ ')' :: back, rfl, ?_⟩
  simp only [List.mem_append, List.mem_cons, hfront.paren_mem, hback.paren_mem, classNames,
    List.mem_filterMap, Option.mem_toList, Char.reduceEq, false_or]
  constructor
  · rintro (⟨type, htype, name, hname, hparen⟩ | ⟨name, hname, hparen⟩)
    · exact ⟨name, .inl ⟨type, htype, hname⟩, hparen⟩
    · exact ⟨name, .inr hname, hparen⟩
  · rintro ⟨name, ⟨type, htype, hname⟩ | hname, hparen⟩
    · exact .inl ⟨type, htype, name, hname, hparen⟩
    · exact .inr ⟨name, hname, hparen⟩

/-- If a declaration is taken apart in two ways, the longer name holds a parenthesis, and so does a
class name that stands behind the shorter one. -/
theorem paren_mem_of_append_eq {name name' text text' : String} {d d' : MethodDescriptor}
    (hd : d.Spelled text.toList) (hd' : d'.Spelled text'.toList)
    (h : name ++ text = name' ++ text') (hlt : name.length < name'.length) :
    '(' ∈ name'.toList ∧ ∃ className ∈ d.classNames, '(' ∈ className.toList := by
  have hchars : name.toList ++ text.toList = name'.toList ++ text'.toList := by
    simpa using congrArg String.toList h
  obtain ⟨tail, htail, hmem⟩ := hd.exists_eq_cons
  obtain ⟨tail', htail', -⟩ := hd'.exists_eq_cons
  rw [htail, htail'] at hchars
  rcases List.append_eq_append_iff.mp hchars with ⟨more, hname, hd⟩ | ⟨more, hname, -⟩
  · rcases more with _ | ⟨c, more⟩
    · simp [← String.length_toList, hname] at hlt
    · obtain ⟨rfl, rfl⟩ := List.cons.inj hd
      exact ⟨by simp [hname], hmem.mp (by simp)⟩
  · simp [← String.length_toList, hname] at hlt

/-- The text is a descriptor of a method. -/
def IsMethodDescriptor (text : String) : Prop := ∃ d, MethodDescriptor.parse text = .ok d

namespace Method

/-- What the method declares, in two parts. -/
def declared (m : Method) : String × String := (m.name, m.descriptor)

/-- No class name in the descriptor holds an opening parenthesis. -/
def HasPlainClassNames (m : Method) : Prop :=
  ∀ d, MethodDescriptor.parse m.descriptor = .ok d → ∀ className ∈ d.classNames,
    '(' ∉ className.toList

/-- The declaration can be taken apart in no other way. -/
def ReadsOneWay (m : Method) : Prop :=
  ∀ name descriptor, IsMethodDescriptor descriptor → name ++ descriptor = m.declaration →
    (name, descriptor) = m.declared

variable {m n : Method}

theorem not_length_lt_of_declaration_eq (hm : IsMethodDescriptor m.descriptor)
    (hn : IsMethodDescriptor n.descriptor) (h : m.declaration = n.declaration)
    (hplain : '(' ∉ n.name.toList ∨ m.HasPlainClassNames) : ¬ m.name.length < n.name.length := by
  intro hlt
  obtain ⟨d, hd⟩ := hm
  obtain ⟨e, he⟩ := hn
  have hspelled := (reads_method.readAll_eq_ok _ _).mp hd
  have hspelled' := (reads_method.readAll_eq_ok _ _).mp he
  obtain ⟨hname, className, hmem, hparen⟩ := paren_mem_of_append_eq hspelled hspelled' h hlt
  rcases hplain with hplain | hplain
  · exact hplain hname
  · exact hplain d hd className hmem hparen

/-- A declaration gives away its two parts if names of methods, or of classes, are plain. -/
theorem declared_eq_of_declaration_eq (hm : IsMethodDescriptor m.descriptor)
    (hn : IsMethodDescriptor n.descriptor) (h : m.declaration = n.declaration)
    (hplain : ('(' ∉ m.name.toList ∧ '(' ∉ n.name.toList) ∨
      (m.HasPlainClassNames ∧ n.HasPlainClassNames)) : m.declared = n.declared := by
  have hmn := not_length_lt_of_declaration_eq hm hn h (hplain.imp And.right And.left)
  have hnm := not_length_lt_of_declaration_eq hn hm h.symm (hplain.imp And.left And.right)
  have hchars : m.name.toList ++ m.descriptor.toList = n.name.toList ++ n.descriptor.toList := by
    simpa [declaration] using congrArg String.toList h
  have hlength : m.name.toList.length = n.name.toList.length := by
    rw [String.length_toList, String.length_toList]
    omega
  obtain ⟨hname, hdescriptor⟩ := List.append_inj hchars hlength
  rw [declared, declared, String.toList_inj.mp hname, String.toList_inj.mp hdescriptor]

end Method

namespace ClassFile

/-- What the methods of the class declare. -/
def declared (c : ClassFile) : List (String × String) := c.methods.map Method.declared

def HasDescriptors (c : ClassFile) : Prop := ∀ m ∈ c.methods, IsMethodDescriptor m.descriptor

variable {a b : ClassFile}

/-- Declarations tell methods apart as far as they give away their parts. -/
theorem declared_perm_of_declarations_perm
    (hsame : ∀ m ∈ a.methods, ∀ n ∈ b.methods, m.declaration = n.declaration →
      m.declared = n.declared) (h : a.declarations.Perm b.declarations) :
    a.declared.Perm b.declared :=
  perm_map_of_pairUp (pairUp_imp hsame (pairUp_of_perm_map h))

theorem declarations_perm_of_declared_perm (h : a.declared.Perm b.declared) :
    a.declarations.Perm b.declarations := by
  have hjoined (c : ClassFile) : c.declarations = c.declared.map fun p => p.1 ++ p.2 := by
    simp [declarations, declared, Method.declared, Method.declaration]
  rw [hjoined, hjoined]
  exact h.map _

section Exact

variable {trail : Trail} (hm : ctx.mode = .declarationsOnly)

include hm

theorem passes_checkMethods_of_plain (ha : a.HasDescriptors) (hb : b.HasDescriptors)
    (hplain : (∀ m ∈ a.methods ++ b.methods, '(' ∉ m.name.toList) ∨
      ∀ m ∈ a.methods ++ b.methods, m.HasPlainClassNames) :
    ((checkMethods ctx a b).run trail).passes = true ↔ a.declared.Perm b.declared := by
  rw [passes_checkMethods_of_declarations hm]
  refine ⟨declared_perm_of_declarations_perm fun m hm n hn h => ?_,
    declarations_perm_of_declared_perm⟩
  have hma := List.mem_append_left b.methods hm
  have hnb := List.mem_append_right a.methods hn
  exact Method.declared_eq_of_declaration_eq (ha m hm) (hb n hn) h
    (hplain.imp (fun h => ⟨h m hma, h n hnb⟩) fun h => ⟨h m hma, h n hnb⟩)

/-- Where a declaration can be taken apart in another way, a class that declares so passes. -/
theorem forall_passes_checkMethods_iff (ha : a.HasDescriptors) :
    (∀ b : ClassFile, b.HasDescriptors →
      (((checkMethods ctx a b).run trail).passes = true ↔ a.declared.Perm b.declared)) ↔
      ∀ m ∈ a.methods, m.ReadsOneWay := by
  simp only [passes_checkMethods_of_declarations hm]
  constructor
  · intro h m hmem name descriptor hdescriptor hdeclaration
    obtain ⟨before, after, hsplit⟩ := List.append_of_mem hmem
    let other : Method := { m with name, descriptor }
    let b : ClassFile := { a with methods := before ++ other :: after }
    have hb : b.HasDescriptors := by
      intro n hn
      rcases List.mem_append.mp hn with hn | hn
      · exact ha n (by simp [hsplit, hn])
      rcases List.mem_cons.mp hn with rfl | hn
      · exact hdescriptor
      · exact ha n (by simp [hsplit, hn])
    have hsame : a.declarations = b.declarations := by
      have hother : m.declaration = other.declaration := hdeclaration.symm
      simp [declarations, b, hsplit, hother]
    have hperm : (m.declared :: after.map Method.declared).Perm
        (other.declared :: after.map Method.declared) := by
      have hdeclared := (h b hb).mp (.of_eq hsame)
      rw [declared, declared, hsplit, List.map_append, List.map_append] at hdeclared
      exact (List.perm_append_left_iff _).mp hdeclared
    have hsingle : [m.declared].Perm [other.declared] := (List.perm_append_right_iff _).mp hperm
    exact (List.singleton_perm_singleton.mp hsingle).symm
  · intro hone b hb
    refine ⟨declared_perm_of_declarations_perm fun m hmem n hn h => ?_,
      declarations_perm_of_declared_perm⟩
    exact (hone m hmem n.name n.descriptor (hb n hn) h.symm).symm

end Exact

/-- Whether methods pass by their declarations alone depends on the joined texts. They pass if they
declare the same names and descriptors; that nothing else passes needs names without parentheses,
and holds for all classes exactly if each declaration reads in one way only. -/
theorem passes_checkMethods_iff_declared (hm : ctx.mode = .declarationsOnly) (trail : Trail)
    (ha : a.HasDescriptors) :
    (∀ b : ClassFile, b.HasDescriptors →
      (((checkMethods ctx a b).run trail).passes = true ↔
        a.declarations.Perm b.declarations) ∧
      (a.declared.Perm b.declared → ((checkMethods ctx a b).run trail).passes = true) ∧
      ((∀ m ∈ a.methods ++ b.methods, '(' ∉ m.name.toList) ∨
          (∀ m ∈ a.methods ++ b.methods, m.HasPlainClassNames) →
        (((checkMethods ctx a b).run trail).passes = true ↔ a.declared.Perm b.declared))) ∧
    ((∀ b : ClassFile, b.HasDescriptors →
      (((checkMethods ctx a b).run trail).passes = true ↔ a.declared.Perm b.declared)) ↔
      ∀ m ∈ a.methods, m.ReadsOneWay) := by
  refine ⟨fun b hb => ⟨passes_checkMethods_of_declarations hm, fun h => ?_,
    passes_checkMethods_of_plain hm ha hb⟩, forall_passes_checkMethods_iff hm ha⟩
  exact (passes_checkMethods_of_declarations hm).mpr (declarations_perm_of_declared_perm h)

/-- Two methods that stand in the other order. -/
theorem passes_checkMethods_of_swapped_methods :
    ((checkMethods { Context.plain with mode := .declarationsOnly }
      (bare "C" [] [.bare "m" "(I)V" [], .bare "n" "()La;" []])
      (bare "C" [] [.bare "n" "()La;" [], .bare "m" "(I)V" []])).run .empty).passes = true := by
  have hdescriptors : ∀ m ∈ [Method.bare "m" "(I)V" [], .bare "n" "()La;" []],
      IsMethodDescriptor m.descriptor := by
    simp only [List.forall_mem_cons]
    exact ⟨⟨⟨[.base .int], none⟩, rfl⟩, ⟨⟨[], some (.ref (.object "a"))⟩, rfl⟩, by simp⟩
  have h := (@passes_checkMethods_iff_declared { Context.plain with mode := .declarationsOnly }
    (bare "C" [] [.bare "m" "(I)V" [], .bare "n" "()La;" []]) rfl .empty hdescriptors).1
    (bare "C" [] [.bare "n" "()La;" [], .bare "m" "(I)V" []])
    (fun m hm => hdescriptors m ((List.Perm.swap _ _ _).mem_iff.mp hm))
  exact (h.2.2 (.inl (by decide))).mpr (List.Perm.swap _ _ _)

/-- A part of a class name that looks like the beginning of a descriptor may as well belong to the
name of the method. -/
theorem passes_checkMethods_iff_declared_fails :
    ¬ ∀ (ctx : Context) (trail : Trail) (a b : ClassFile), ctx.mode = .declarationsOnly →
      a.HasDescriptors → b.HasDescriptors →
      (((checkMethods ctx a b).run trail).passes = true ↔ a.declared.Perm b.declared) := by
  intro h
  have hlong : IsMethodDescriptor "()Lx()Ly;" :=
    ⟨⟨[], some (.ref (.object "x()Ly"))⟩, rfl⟩
  have hshort : IsMethodDescriptor "()Ly;" := ⟨⟨[], some (.ref (.object "y"))⟩, rfl⟩
  have hab := h { Context.plain with mode := .declarationsOnly } .empty
    (bare "C" [] [.bare "m" "()Lx()Ly;" []]) (bare "C" [] [.bare "m()Lx" "()Ly;" []]) rfl
    (fun m hm => by rwa [List.mem_singleton.mp hm])
    (fun m hm => by rwa [List.mem_singleton.mp hm])
  rw [passes_checkMethods_of_declarations rfl] at hab
  revert hab
  decide

end ClassFile

end ClassMatch
