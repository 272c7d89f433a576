import ClassMatch.Proofs.Options.Hidden

/-!
Names and descriptors that are ignored. What they are replaced by makes no difference in a class,
its fields and its methods, with one exception: where methods are told apart by their declarations
alone, ignored names and descriptors of methods count all the same.
-/
namespace ClassMatch

variable {ctx : Context} {o : CheckOption} {trail : Trail}

theorem Context.has_of_mem_singleton (h : ctx.has o = true) (p : CheckOption)
    (hp : p ∈ ({o} : Set CheckOption)) : ctx.has p = true := by
  rw [Set.mem_singleton_iff.mp hp]
  exact h

theorem Entity.sameBut_withName (e : Entity) (name : String) :
    e.SameBut {.ignoreName} { e with name } :=
  { SameBut.refl e with name := fun h => absurd rfl h }

theorem Field.sameBut_withName (f : Field) (name : String) :
    f.SameBut {.ignoreName} { f with name } :=
  { SameBut.refl f with entity := f.entity.sameBut_withName name }

theorem Method.sameBut_withName (m : Method) (name : String) :
    m.SameBut {.ignoreName} { m with name } :=
  { SameBut.refl m with entity := m.entity.sameBut_withName name }

theorem Method.sameBut_withDescriptor (m : Method) (descriptor : String) :
    m.SameBut {.ignoreDescriptor} { m with descriptor } :=
  { SameBut.refl m with descriptor := fun h => absurd rfl h }

/-- The option hides enough of a method to declare it in another way. -/
theorem Method.exists_other_declaration (ho : o = .ignoreName ∨ o = .ignoreDescriptor)
    (m : Method) : ∃ m', m.SameBut {o} m' ∧ m.declaration ≠ m'.declaration := by
  have hlonger {s t : String} (h : t.length = s.length + 1) : s ≠ t := by
    rintro rfl
    omega
  have hx : "x".length = 1 := rfl
  rcases ho with rfl | rfl
  · refine ⟨_, m.sameBut_withName (m.name ++ "x"), hlonger ?_⟩
    simp only [declaration, String.length_append, hx]
    omega
  · refine ⟨_, m.sameBut_withDescriptor (m.descriptor ++ "x"), hlonger ?_⟩
    simp only [declaration, String.length_append, hx]
    omega

namespace ClassFile

variable {a a' b b' : ClassFile}

theorem methods_eq_nil_iff (ho : o = .ignoreName ∨ o = .ignoreDescriptor) (a : ClassFile) :
    (∀ a' : ClassFile, a.SameBut {o} a' → a.declarations.Perm a'.declarations) ↔
      a.methods = [] := by
  have hmethods : .ignoreMethods ∉ ({o} : Set CheckOption) := by
    rcases ho with rfl | rfl <;> simp
  constructor
  · intro h
    cases hms : a.methods with
    | nil => rfl
    | cons m ms =>
      obtain ⟨m', hm, hne⟩ := Method.exists_other_declaration ho m
      have hsame : a.SameBut {o} { a with methods := m' :: ms } := by
        refine { SameBut.refl a with methods := fun _ => ?_ }
        rw [hms]
        exact .cons hm (forall₂_self Method.SameBut.refl ms)
      have hperm : (m.declaration :: ms.map Method.declaration).Perm
          (m'.declaration :: ms.map Method.declaration) := by
        have hdeclarations := h _ hsame
        rwa [declarations, hms] at hdeclarations
      have hsingle : [m.declaration].Perm [m'.declaration] :=
        (List.perm_append_right_iff (ms.map Method.declaration)).mp hperm
      exact absurd (List.singleton_perm_singleton.mp hsingle) hne
  · intro h a' hsame
    have hnil := hsame.methods hmethods
    rw [h] at hnil
    rw [declarations, declarations, h, List.forall₂_nil_left_iff.mp hnil]

theorem compare_eq_eq_of_declarations (ht : ctx.TellsDeclarations) :
    a.compare ctx b = .eq ↔
      compareHeaders ctx a b = .eq ∧ a.declarations.Perm b.declarations := by
  rw [compare, Ordering.then_eq_eq, unless_eq_eq, ht.1, compareMethods_of_declarations ht.2]
  simp

theorem passes_check_of_declarations (ht : ctx.TellsDeclarations) :
    ((a.check ctx b).run trail).passes = true ↔
      ((checkHeaders ctx a b).run trail).passes = true ∧
      (ctx.has .ignoreFields = true ∨
        ((checkFields ctx a b).run (trail.push (Trail.fieldCrumb "fields"))).passes = true) ∧
      a.declarations.Perm b.declarations := by
  rw [passes_check_iff_parts, passes_checkMethods_of_declarations ht.2, ht.1]
  simp

section Replaced

variable (hctx : ctx.has o = true) (ht : ctx.TellsDeclarations) (ha : a.SameBut {o} a')
  (hb : b.SameBut {o} b')

include hctx ht ha hb

/-- Classes that were equal are still equal exactly if they declare the same methods. -/
theorem compare_eq_eq_iff_declarations (h : a.compare ctx b = .eq) :
    a'.compare ctx b' = .eq ↔ a'.declarations.Perm b'.declarations := by
  have hh := Context.has_of_mem_singleton hctx
  have hheaders : compareHeaders ctx a' b' = compareHeaders ctx a b :=
    cmp_congr (compareHeaders_of_sameBut hh ha) (compareHeaders_of_sameBut hh hb)
  rw [compare_eq_eq_of_declarations ht] at h ⊢
  rw [hheaders, and_iff_right h.1]

theorem passes_check_iff_declarations (h : ((a.check ctx b).run trail).passes = true) :
    ((a'.check ctx b').run trail).passes = true ↔ a'.declarations.Perm b'.declarations := by
  have hh := Context.has_of_mem_singleton hctx
  rw [passes_check_of_declarations ht] at h ⊢
  obtain ⟨hheaders, hfields, -⟩ := h
  have hfields' : ctx.has .ignoreFields = true ∨
      ((checkFields ctx a' b').run (trail.push (Trail.fieldCrumb "fields"))).passes = true := by
    cases hi : ctx.has .ignoreFields with
    | true => exact .inl rfl
    | false =>
      exact .inr ((passes_checkFields_congr hh hi ha hb).mpr (hfields.resolve_left (by simp [hi])))
  rw [passes_checkHeaders_congr hh ha hb, and_iff_right hheaders, and_iff_right hfields']

end Replaced

/-- Replacing ignored names or descriptors makes no difference unless methods are told apart by
their declarations alone. Where they are, equal classes stay equal exactly if the declarations stay
the same, so only classes without methods do in any case. -/
theorem unchanged_by_hidden_names (ctx : Context) (ho : o = .ignoreName ∨ o = .ignoreDescriptor)
    (hctx : ctx.has o = true) :
    (∀ a a' b b' : ClassFile, a.SameBut {o} a' → b.SameBut {o} b' →
      (ctx.TellsDeclarations →
        a.declarations.Perm a'.declarations ∧ b.declarations.Perm b'.declarations) →
      a'.compare ctx b' = a.compare ctx b ∧ ∀ trail : Trail,
        ((a'.check ctx b').run trail).passes = ((a.check ctx b).run trail).passes) ∧
    (ctx.TellsDeclarations →
      (∀ a a' b b' : ClassFile, a.SameBut {o} a' → b.SameBut {o} b' →
        (a.compare ctx b = .eq →
          (a'.compare ctx b' = .eq ↔ a'.declarations.Perm b'.declarations)) ∧
        ∀ trail : Trail, ((a.check ctx b).run trail).passes = true →
          (((a'.check ctx b').run trail).passes = true ↔
            a'.declarations.Perm b'.declarations)) ∧
      ∀ a : ClassFile,
        ((∀ a' : ClassFile, a.SameBut {o} a' → a.compare ctx a' = .eq) ↔ a.methods = []) ∧
        ∀ trail : Trail, (∀ a' : ClassFile, a.SameBut {o} a' →
          ((a.check ctx a').run trail).passes = true) ↔ a.methods = []) := by
  refine ⟨fun a a' b b' ha hb hd => ?_, fun ht => ⟨fun a a' b b' ha hb => ?_, fun a => ?_⟩⟩
  · have hh := Context.has_of_mem_singleton hctx
    have hda (ht : ctx.TellsDeclarations) := (hd ht).1
    have hdb (ht : ctx.TellsDeclarations) := (hd ht).2
    exact ⟨compare_congr hh hda hdb ha hb, fun trail => passes_check_congr hh hda hdb ha hb⟩
  · exact ⟨compare_eq_eq_iff_declarations hctx ht ha hb,
      fun trail => passes_check_iff_declarations hctx ht ha hb⟩
  · rw [← methods_eq_nil_iff ho a]
    refine ⟨forall₂_congr fun a' hsame => ?_, fun trail => forall₂_congr fun a' hsame => ?_⟩
    · exact compare_eq_eq_iff_declarations hctx ht (.refl a) hsame (compare_self ctx a)
    · exact passes_check_iff_declarations hctx ht (.refl a) hsame (passes_check_self ctx trail a)

/-- A class, its field and its method all get another name. -/
theorem unchanged_by_hidden_names_of_members :
    (bare "D" [.bare "y" "I"] [.bare "n" "()V" []]).compare (Context.plain.adding .ignoreName)
        (bare "C" [.bare "x" "I"] [.bare "m" "()V" []]) = .eq ∧
      (((bare "D" [.bare "y" "I"] [.bare "n" "()V" []]).check (Context.plain.adding .ignoreName)
        (bare "C" [.bare "x" "I"] [.bare "m" "()V" []])).run .empty).passes = true := by
  have hclass : (bare "C" [.bare "x" "I"] [.bare "m" "()V" []]).SameBut {.ignoreName}
      (bare "D" [.bare "y" "I"] [.bare "n" "()V" []]) :=
    { SameBut.refl (bare "C" [.bare "x" "I"] [.bare "m" "()V" []]) with
      entity := (bare "C" [] []).entity.sameBut_withName "D"
      fields := fun _ => .cons (Field.sameBut_withName (.bare "x" "I") "y") .nil
      methods := fun _ => .cons (Method.sameBut_withName (.bare "m" "()V" []) "n") .nil }
  have hunchanged := (unchanged_by_hidden_names (Context.plain.adding .ignoreName) (.inl rfl)
    (by decide)).1 _ _ _ _ hclass (.refl (bare "C" [.bare "x" "I"] [.bare "m" "()V" []]))
    fun ht => absurd ht.2 (by decide)
  exact ⟨hunchanged.1.trans (compare_self _ _),
    (hunchanged.2 .empty).trans (passes_check_self _ _ _)⟩

/-- Told apart by declarations alone, a method with another name is another one, although names are
ignored. -/
theorem unchanged_by_hidden_names_fails :
    ¬ ∀ (ctx : Context) (a a' b b' : ClassFile), ctx.has .ignoreName = true →
      a.SameBut {.ignoreName} a' → b.SameBut {.ignoreName} b' →
      (a'.compare ctx b' = .eq ↔ a.compare ctx b = .eq) ∧ ∀ trail : Trail,
        ((a'.check ctx b').run trail).passes = ((a.check ctx b).run trail).passes := by
  intro h
  let old := bare "C" [] [.bare "m" "()V" []]
  have hclass : old.SameBut {.ignoreName} (bare "C" [] [.bare "n" "()V" []]) :=
    { SameBut.refl old with
      methods := fun _ => .cons (Method.sameBut_withName (.bare "m" "()V" []) "n") .nil }
  let ctx : Context :=
    { Context.plain with options := .ofList [.ignoreName], mode := .declarationsOnly }
  have hequal := (h ctx _ _ _ _ rfl hclass (.refl old)).1
  revert hequal
  decide

end ClassFile

end ClassMatch
