import ClassMatch.Descriptor.Parse
import Mathlib.Data.Set.Function

/-!
What the readers of descriptors take. A text spells a value if it is written as the value is, but
with any number of brackets before an array that a machine word counts alike. A reader takes a
spelling of its value from the front of a text, whatever follows it, and takes nothing else.
-/
namespace ClassMatch

/-- A name that a descriptor can hold; a semicolon would end it. -/
def IsClassName (name : String) : Prop := name ≠ "" ∧ ';' ∉ name.toList

def RefType.className? : RefType → Option String
  | .object className | .objectArray _ className => some className
  | .primitiveArray .. => none

def RefType.extra? : RefType → Option UInt64
  | .object _ => none
  | .objectArray extra _ | .primitiveArray extra _ => some extra

def FieldType.className? : FieldType → Option String
  | .base _ => none
  | .ref type => type.className?

def FieldType.extra? : FieldType → Option UInt64
  | .base _ => none
  | .ref type => type.extra?

/-- The class names in the order in which they are written. -/
def MethodDescriptor.classNames (d : MethodDescriptor) : List String :=
  d.parameters.filterMap FieldType.className? ++ (d.result.bind FieldType.className?).toList

def RefType.WellFormed (type : RefType) : Prop := ∀ name ∈ type.className?, IsClassName name

def FieldType.WellFormed (type : FieldType) : Prop := ∀ name ∈ type.className?, IsClassName name

def MethodDescriptor.WellFormed (d : MethodDescriptor) : Prop :=
  ∀ name ∈ d.classNames, IsClassName name

section Spellings

/-- This many brackets are read as the dimensions of the type. -/
def RefType.IsBracketed (type : RefType) (brackets : Nat) : Prop :=
  match type.extra? with
  | none => brackets = 0
  | some extra => ∃ more : Nat, brackets = more + 1 ∧ extra = .ofNat more

def RefType.Spelled (type : RefType) (text : List Char) : Prop :=
  type.WellFormed ∧ ∃ brackets, type.IsBracketed brackets ∧
    text = List.replicate brackets '[' ++ type.elementChars

def FieldType.Spelled : FieldType → List Char → Prop
  | base type, text => text = [type.letter]
  | ref type, text => type.Spelled text

inductive FieldType.SpelledInTurn : List FieldType → List Char → Prop
  | nil : SpelledInTurn [] []
  | cons {type : FieldType} {types : List FieldType} {front rest : List Char} :
    type.Spelled front → SpelledInTurn types rest → SpelledInTurn (type :: types) (front ++ rest)

def FieldType.SpelledResult : Option FieldType → List Char → Prop
  | none, text => text = ['V']
  | some type, text => type.Spelled text

def MethodDescriptor.Spelled (d : MethodDescriptor) (text : List Char) : Prop :=
  ∃ front back, FieldType.SpelledInTurn d.parameters front ∧
    FieldType.SpelledResult d.result back ∧ text = '(' :: front ++ ')' :: back

end Spellings

/-- The reader takes a value from the front of a text exactly if the text begins with a spelling of
the value. -/
structure Reads {α : Type} (reader : Reader α) (spelled : α → List Char → Prop) : Prop where
  sound {text rest : List Char} {value : α} (h : reader text = .ok (value, rest)) :
    ∃ front, spelled value front ∧ text = front ++ rest
  complete {value : α} {front : List Char} (h : spelled value front) (rest : List Char) :
    reader (front ++ rest) = .ok (value, rest)

theorem bind_eq_ok {α β : Type} {x : Except DescriptorError (α × List Char)}
    {f : α × List Char → Except DescriptorError β} {b : β} :
    (x >>= f) = .ok b ↔ ∃ value rest, x = .ok (value, rest) ∧ f (value, rest) = .ok b := by
  rcases x with e | ⟨value, rest⟩
  · exact ⟨nofun, nofun⟩
  · exact ⟨fun h => ⟨value, rest, rfl, h⟩, fun ⟨_, _, hx, h⟩ => by cases hx; exact h⟩

theorem Reads.readAll_eq_ok {α : Type} {reader : Reader α} {spelled : α → List Char → Prop}
    (h : Reads reader spelled) (text : String) (value : α) :
    readAll reader text = .ok value ↔ spelled value text.toList := by
  rw [readAll, bind_eq_ok]
  constructor
  · rintro ⟨value', rest, hread, hend⟩
    cases rest with
    | cons c rest => exact absurd hend nofun
    | nil =>
      obtain rfl : value' = value := by simpa [pure, Except.pure] using hend
      obtain ⟨front, hspelled, htext⟩ := h.sound hread
      rwa [htext, List.append_nil]
  · intro hspelled
    have hread := h.complete hspelled []
    rw [List.append_nil] at hread
    exact ⟨value, [], hread, rfl⟩

section Names

/-- A name ends at the first semicolon, of which the reader takes notice. -/
theorem readNameTail_append {taken name : List Char} (hname : ';' ∉ name)
    (hne : taken.reverse ++ name ≠ []) (rest : List Char) :
    readNameTail taken (name ++ ';' :: rest) =
      .ok (String.ofList (taken.reverse ++ name), rest) := by
  induction name generalizing taken with
  | nil =>
    have htaken : taken.isEmpty = false := by simpa using hne
    simp [readNameTail, htaken]
  | cons c name ih =>
    obtain ⟨hc, hname⟩ := not_or.mp (List.mem_cons.not.mp hname)
    rw [List.cons_append, readNameTail, if_neg (Ne.symm hc), ih hname (by simp)]
    simp

theorem eq_append_of_readNameTail {taken text rest : List Char} {className : String}
    (h : readNameTail taken text = .ok (className, rest)) :
    ∃ name, ';' ∉ name ∧ taken.reverse ++ name ≠ [] ∧
      className = String.ofList (taken.reverse ++ name) ∧ text = name ++ ';' :: rest := by
  induction text generalizing taken with
  | nil => exact absurd h nofun
  | cons c text ih =>
    by_cases hc : c = ';'
    · rw [readNameTail, if_pos hc] at h
      cases taken with
      | nil => exact absurd h nofun
      | cons d taken =>
        obtain ⟨rfl, rfl⟩ : String.ofList (d :: taken).reverse = className ∧ text = rest := by
          simpa using h
        exact ⟨[], by simp, by simp, by simp, by simp [hc]⟩
    · rw [readNameTail, if_neg hc] at h
      obtain ⟨name, hname, -, rfl, rfl⟩ := ih h
      exact ⟨c :: name, by simp [hname, Ne.symm hc], by simp, by simp, rfl⟩

theorem reads_className :
    Reads readClassName fun name text => IsClassName name ∧ text = objectChars name where
  sound {text rest className} h := by
    rcases text with _ | ⟨c, text⟩
    · exact absurd h nofun
    by_cases hc : c = 'L'
    · subst hc
      obtain ⟨name, hname, hne, rfl, rfl⟩ := eq_append_of_readNameTail h
      refine ⟨_, ⟨⟨?_, by simpa using hname⟩, rfl⟩, by simp [objectChars]⟩
      simpa using hne
    · simp [readClassName, hc] at h
  complete {className front} h rest := by
    obtain ⟨hname, rfl⟩ := h
    have hne : className.toList ≠ [] := by simpa using hname.1
    have hread := @readNameTail_append [] _ hname.2 hne rest
    simpa [objectChars, readClassName] using hread

end Names

theorem BaseType.eq_letter {c : Char} {type : BaseType} (h : ofLetter? c = some type) :
    c = type.letter := by
  unfold ofLetter? at h
  split at h <;> cases h <;> rfl

theorem reads_base : Reads readBase fun type text => text = [type.letter] where
  sound {text rest type} h := by
    rcases text with _ | ⟨c, text⟩
    · exact absurd h nofun
    cases ht : BaseType.ofLetter? c with
    | none => simp [readBase, ht] at h
    | some type' =>
      obtain ⟨rfl, rfl⟩ : type' = type ∧ text = rest := by simpa [readBase, ht] using h
      exact ⟨_, rfl, by rw [BaseType.eq_letter ht]; rfl⟩
  complete {type front} h rest := by
    simp [h, readBase, BaseType.ofLetter?_letter]

section Arrays

theorem add_one_add_ofNat (extra : UInt64) (more : Nat) :
    extra + 1 + .ofNat more = extra + .ofNat (more + 1) := by
  rw [UInt64.ofNat_add, UInt64.add_assoc, UInt64.add_comm 1]
  rfl

/-- Opening brackets are counted. -/
theorem readArray_replicate (extra : UInt64) (more : Nat) (text : List Char) :
    readArray extra (List.replicate more '[' ++ text) = readArray (extra + .ofNat more) text := by
  induction more generalizing extra with
  | zero => exact congrArg (readArray · text) (UInt64.add_zero extra).symm
  | succ more ih =>
    rw [List.replicate_succ, List.cons_append, readArray, ih, add_one_add_ofNat]

theorem readArray_elementChars {type : RefType} {extra : UInt64} (hwell : type.WellFormed)
    (hextra : type.extra? = some extra) (rest : List Char) :
    readArray extra (type.elementChars ++ rest) = .ok (type, rest) := by
  cases type with
  | object => cases hextra
  | objectArray extra' className =>
    cases hextra
    have hread : readArray extra (objectChars className ++ rest) =
        (readClassName (objectChars className ++ rest) >>= fun p =>
          pure (.objectArray extra p.1, p.2)) := rfl
    rw [RefType.elementChars, hread, reads_className.complete ⟨hwell className rfl, rfl⟩]
    rfl
  | primitiveArray extra' element =>
    cases hextra
    cases element <;> rfl

/-- The brackets that were read before count as well. -/
theorem spelled_of_readArray {extra : UInt64} {text rest : List Char} {type : RefType}
    (h : readArray extra text = .ok (type, rest)) :
    type.WellFormed ∧ ∃ more : Nat, type.extra? = some (extra + .ofNat more) ∧
      text = List.replicate more '[' ++ type.elementChars ++ rest := by
  fun_induction readArray extra text with
  | case1 extra text ih =>
    obtain ⟨hwell, more, hextra, rfl⟩ := ih h
    exact ⟨hwell, more + 1, by rw [hextra, add_one_add_ofNat], rfl⟩
  | case2 extra text =>
    obtain ⟨className, rest', hread, htype⟩ := bind_eq_ok.mp h
    obtain ⟨front, ⟨hname, rfl⟩, htext⟩ := reads_className.sound hread
    cases htype
    exact ⟨by simpa [RefType.WellFormed, RefType.className?] using hname, 0,
      congrArg some (UInt64.add_zero extra).symm, htext⟩
  | case3 extra text =>
    obtain ⟨element, rest', hread, htype⟩ := bind_eq_ok.mp h
    obtain ⟨front, rfl, htext⟩ := reads_base.sound hread
    cases htype
    exact ⟨nofun, 0, congrArg some (UInt64.add_zero extra).symm, htext⟩

end Arrays

theorem reads_ref : Reads readRef RefType.Spelled where
  sound {text rest type} h := by
    unfold readRef at h
    split at h
    · exact absurd h nofun
    · obtain ⟨hwell, more, hextra, rfl⟩ := spelled_of_readArray h
      refine ⟨_, ⟨hwell, more + 1, ?_, rfl⟩, rfl⟩
      simp [RefType.IsBracketed, hextra]
    · obtain ⟨className, rest', hread, htype⟩ := bind_eq_ok.mp h
      obtain ⟨front, ⟨hname, rfl⟩, htext⟩ := reads_className.sound hread
      cases htype
      exact ⟨_, ⟨by simpa [RefType.WellFormed, RefType.className?] using hname, 0, rfl, rfl⟩, htext⟩
    · exact absurd h nofun
  complete {type front} h rest := by
    obtain ⟨hwell, brackets, hbrackets, rfl⟩ := h
    cases hextra : type.extra? with
    | some extra =>
      obtain ⟨more, rfl, rfl⟩ : ∃ more, brackets = more + 1 ∧ extra = .ofNat more := by
        simpa only [RefType.IsBracketed, hextra] using hbrackets
      rw [List.replicate_succ, List.cons_append, List.cons_append, List.append_assoc, readRef,
        readArray_replicate, UInt64.zero_add, readArray_elementChars hwell hextra]
    | none =>
      obtain rfl : brackets = 0 := by simpa only [RefType.IsBracketed, hextra] using hbrackets
      cases type with
      | object className =>
        have hread : readRef (objectChars className ++ rest) =
            (readClassName (objectChars className ++ rest) >>= fun p =>
              pure (.object p.1, p.2)) := rfl
        rw [List.replicate_zero, List.nil_append, RefType.elementChars, hread,
          reads_className.complete ⟨hwell className rfl, rfl⟩]
        rfl
      | objectArray => cases hextra
      | primitiveArray => cases hextra

/-- A reference type is told from a base type by its first character. -/
theorem RefType.Spelled.eq_cons {type : RefType} {text : List Char} (h : type.Spelled text) :
    ∃ c cs, text = c :: cs ∧ BaseType.ofLetter? c = none ∧ c ≠ 'V' ∧ c ≠ ')' := by
  obtain ⟨-, brackets, hbrackets, rfl⟩ := h
  cases brackets with
  | succ more => exact ⟨'[', _, rfl, rfl, by decide, by decide⟩
  | zero =>
    cases type with
    | object className => exact ⟨'L', _, rfl, rfl, by decide, by decide⟩
    | objectArray => simp [IsBracketed, extra?] at hbrackets
    | primitiveArray => simp [IsBracketed, extra?] at hbrackets

/-- A type begins neither like `void` nor like the end of the parameters. -/
theorem FieldType.Spelled.eq_cons {type : FieldType} {text : List Char} (h : type.Spelled text) :
    ∃ c cs, text = c :: cs ∧ c ≠ 'V' ∧ c ≠ ')' := by
  cases type with
  | base base => exact ⟨base.letter, [], h, by cases base <;> decide, by cases base <;> decide⟩
  | ref type =>
    obtain ⟨c, cs, htext, -, hc⟩ := RefType.Spelled.eq_cons h
    exact ⟨c, cs, htext, hc⟩

theorem reads_field : Reads readField FieldType.Spelled where
  sound {text rest type} h := by
    rcases text with _ | ⟨c, text⟩
    · exact absurd h nofun
    cases ht : BaseType.ofLetter? c with
    | none =>
      rw [readField, ht] at h
      obtain ⟨type', rest', hread, htype⟩ := bind_eq_ok.mp h
      cases htype
      exact reads_ref.sound hread
    | some base =>
      obtain ⟨rfl, rfl⟩ : FieldType.base base = type ∧ text = rest := by
        simpa [readField, ht] using h
      exact ⟨[base.letter], rfl, by rw [BaseType.eq_letter ht]; rfl⟩
  complete {type front} h rest := by
    cases type with
    | base base =>
      obtain rfl : front = [base.letter] := h
      simp [readField, BaseType.ofLetter?_letter]
    | ref type =>
      have hread := reads_ref.complete h rest
      obtain ⟨c, cs, rfl, hc, -⟩ := RefType.Spelled.eq_cons h
      rw [List.cons_append] at hread
      rw [List.cons_append, readField, hc, hread]
      rfl

section Parameters

/-- Whatever the limit is, only types are taken. -/
theorem spelledInTurn_of_readParameters {limit : Nat} {text rest : List Char}
    {types : List FieldType} (h : readParameters limit text = .ok (types, rest)) :
    ∃ front, FieldType.SpelledInTurn types front ∧ text = front ++ rest := by
  induction limit generalizing text types with
  | zero => cases h; exact ⟨[], .nil, rfl⟩
  | succ limit ih =>
    by_cases hc : text.head? = some ')'
    · rw [readParameters, if_pos hc] at h
      cases h
      exact ⟨[], .nil, rfl⟩
    · rw [readParameters, if_neg hc] at h
      obtain ⟨type, text', htype, h⟩ := bind_eq_ok.mp h
      obtain ⟨types', rest', htypes, h⟩ := bind_eq_ok.mp h
      cases h
      obtain ⟨front, hfront, rfl⟩ := reads_field.sound htype
      obtain ⟨more, hmore, rfl⟩ := ih htypes
      exact ⟨front ++ more, .cons hfront hmore, (List.append_assoc _ _ _).symm⟩

/-- Every type takes a character, so a limit of as many types as there are characters is never
reached. -/
theorem FieldType.SpelledInTurn.length_le {types : List FieldType} {text : List Char}
    (h : SpelledInTurn types text) : types.length ≤ text.length := by
  induction h with
  | nil => exact Nat.le_refl 0
  | cons htype _ ih =>
    obtain ⟨c, cs, rfl, -⟩ := htype.eq_cons
    simp only [List.length_cons, List.length_append]
    omega

theorem readParameters_append {limit : Nat} {types : List FieldType} {text : List Char}
    (h : FieldType.SpelledInTurn types text) (hlimit : types.length ≤ limit) (rest : List Char) :
    readParameters limit (text ++ ')' :: rest) = .ok (types, ')' :: rest) := by
  induction h generalizing limit with
  | nil => cases limit <;> rfl
  | @cons type types front more htype _ ih =>
    obtain ⟨limit, rfl⟩ : ∃ n, limit = n + 1 := ⟨limit - 1, by simp at hlimit; omega⟩
    have hread := reads_field.complete htype (more ++ ')' :: rest)
    have htypes := ih (Nat.le_of_succ_le_succ hlimit)
    obtain ⟨c, cs, rfl, -, hc⟩ := htype.eq_cons
    rw [List.append_assoc, readParameters, if_neg (by simp [hc]), bind_eq_ok]
    exact ⟨type, _, hread, bind_eq_ok.mpr ⟨types, _, htypes, rfl⟩⟩

end Parameters

theorem reads_result : Reads readResult FieldType.SpelledResult where
  sound {text rest result} h := by
    unfold readResult at h
    split at h
    · cases h
      exact ⟨['V'], rfl, rfl⟩
    · obtain ⟨type, rest', hread, htype⟩ := bind_eq_ok.mp h
      cases htype
      exact reads_field.sound hread
  complete {result front} h rest := by
    cases result with
    | none =>
      obtain rfl : front = ['V'] := h
      rfl
    | some type =>
      have hread := reads_field.complete h rest
      obtain ⟨c, cs, rfl, hc, -⟩ := FieldType.Spelled.eq_cons h
      unfold readResult
      split
      · next heq => exact absurd (List.cons.inj heq).1 hc
      · rw [hread]
        rfl

theorem reads_method : Reads readMethod MethodDescriptor.Spelled where
  sound {text rest d} h := by
    unfold readMethod at h
    split at h
    · obtain ⟨parameters, text', hparameters, hthen⟩ := bind_eq_ok.mp h
      obtain ⟨front, hfront, rfl⟩ := spelledInTurn_of_readParameters hparameters
      dsimp only at hthen
      split at hthen
      · obtain ⟨result, rest', hresult, hd⟩ := bind_eq_ok.mp hthen
        obtain ⟨back, hback, rfl⟩ := reads_result.sound hresult
        cases hd
        exact ⟨_, ⟨front, back, hfront, hback, rfl⟩, by simp⟩
      · exact absurd hthen nofun
    · exact absurd h nofun
  complete {d text} h rest := by
    obtain ⟨front, back, hfront, hback, rfl⟩ := h
    have hlimit : d.parameters.length ≤ (front ++ ')' :: (back ++ rest)).length + 1 := by
      have hlength := hfront.length_le
      rw [List.length_append]
      omega
    rw [List.cons_append, List.cons_append, List.append_assoc, List.cons_append, readMethod,
      bind_eq_ok]
    exact ⟨d.parameters, _, readParameters_append hfront hlimit (back ++ rest),
      bind_eq_ok.mpr ⟨d.result, rest, reads_result.complete hback rest, rfl⟩⟩

end ClassMatch
