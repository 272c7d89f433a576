import ClassMatch.Proofs.Alike.Annotations
import ClassMatch.Proofs.Check.OneByOne

/-!
Annotations whose parts change places: the elements of an annotation, at any depth, and the
annotations of a list. Sorting by name undoes the first as long as no annotation gives an element
twice, so that lists of such annotations still pair up as equal ones, whatever is left out.
-/
namespace ClassMatch

open Std

variable {ctx : Context}

namespace ElementValue

/-- Elements of annotations change places, at any depth and any number of times. What an array
holds stays in order. -/
inductive Permuted : ElementValue → ElementValue → Prop
  | refl (value : ElementValue) : Permuted value value
  | trans {a b c : ElementValue} (hab : Permuted a b) (hbc : Permuted b c) : Permuted a c
  | elements {descriptor : String} {elements elements' : List (String × ElementValue)}
      (h : elements.Perm elements') :
      Permuted (nested descriptor elements) (nested descriptor elements')
  | within {descriptor name : String} {before after : List (String × ElementValue)}
      {a b : ElementValue} (h : Permuted a b) :
      Permuted (nested descriptor (before ++ (name, a) :: after))
        (nested descriptor (before ++ (name, b) :: after))
  | item {before after : List ElementValue} {a b : ElementValue} (h : Permuted a b) :
      Permuted (array (before ++ a :: after)) (array (before ++ b :: after))

/-- Some annotation in the value, at any depth, gives two values for one element. -/
inductive RepeatsName : ElementValue → Prop
  | here {descriptor : String} {elements : List (String × ElementValue)}
      (h : ¬ (elements.map Prod.fst).Nodup) : RepeatsName (nested descriptor elements)
  | within {descriptor : String} {elements : List (String × ElementValue)}
      {element : String × ElementValue} (he : element ∈ elements) (h : RepeatsName element.2) :
      RepeatsName (nested descriptor elements)
  | item {values : List ElementValue} {value : ElementValue} (hv : value ∈ values)
      (h : RepeatsName value) : RepeatsName (array values)

theorem not_repeatsName_nested {d : String} {es : List (String × ElementValue)} :
    ¬ (nested d es).RepeatsName ↔ (es.map Prod.fst).Nodup ∧ ∀ e ∈ es, ¬ e.2.RepeatsName := by
  constructor
  · intro h
    exact ⟨by_contra fun hn => h (.here hn), fun e he hr => h (.within he hr)⟩
  · rintro ⟨hn, hes⟩ (hrepeated | ⟨he, hr⟩)
    · exact hrepeated hn
    · exact hes _ he hr

theorem not_repeatsName_array {vs : List ElementValue} :
    ¬ (array vs).RepeatsName ↔ ∀ v ∈ vs, ¬ v.RepeatsName := by
  constructor
  · exact fun h v hv hr => h (.item hv hr)
  · intro h hr
    cases hr with
    | item hv hr => exact h _ hv hr

/-- Sorting by name forgets the order of elements with names of their own. -/
theorem sortElements_of_perm {es es' : List (String × ElementValue)}
    (hn : (es.map Prod.fst).Nodup) (h : es.Perm es') :
    sortElements (sortedElements es) = sortElements (sortedElements es') := by
  rw [sortElements_eq_iff]
  intro name
  rw [valuesOf_sortedElements, valuesOf_sortedElements, valuesOf, valuesOf,
    filter_key_of_perm hn h name]

/-- One change of places after the other, values stay the same once they are sorted. -/
theorem Permuted.sorted_eq {a b : ElementValue} (h : a.Permuted b) (ha : ¬ a.RepeatsName) :
    ¬ b.RepeatsName ∧ a.sorted = b.sorted := by
  induction h with
  | refl => exact ⟨ha, rfl⟩
  | trans _ _ ihab ihbc =>
    obtain ⟨hb, hab⟩ := ihab ha
    obtain ⟨hc, hbc⟩ := ihbc hb
    exact ⟨hc, hab.trans hbc⟩
  | elements h =>
    rw [not_repeatsName_nested] at ha ⊢
    obtain ⟨hn, hes⟩ := ha
    refine ⟨⟨(h.map Prod.fst).nodup_iff.mp hn, fun e he => hes e (h.mem_iff.mpr he)⟩, ?_⟩
    rw [sorted, sorted, sortElements_of_perm hn h]
  | within _ ih =>
    rw [not_repeatsName_nested] at ha ⊢
    simp only [List.map_append, List.map_cons, List.forall_mem_append, List.forall_mem_cons]
      at ha ⊢
    obtain ⟨hn, hbefore, hvalue, hafter⟩ := ha
    obtain ⟨hvalue', heq⟩ := ih hvalue
    refine ⟨⟨hn, hbefore, hvalue', hafter⟩, ?_⟩
    simp only [sorted, sortedElements_eq_map, List.map_append, List.map_cons, heq]
  | item _ ih =>
    rw [not_repeatsName_array] at ha ⊢
    simp only [List.forall_mem_append, List.forall_mem_cons] at ha ⊢
    obtain ⟨hbefore, hvalue, hafter⟩ := ha
    obtain ⟨hvalue', heq⟩ := ih hvalue
    refine ⟨⟨hbefore, hvalue', hafter⟩, ?_⟩
    simp only [sorted, sortedValues_eq_map, List.map_append, List.map_cons, heq]

theorem compare_of_permuted {a b : ElementValue} (h : a.Permuted b) (ha : ¬ a.RepeatsName) :
    a.compare ctx b = .eq := by
  rw [compare, (h.sorted_eq ha).2]
  exact ReflCmp.compare_self

end ElementValue

def AnnotationUse.Permuted (a b : AnnotationUse) : Prop := a.toValue.Permuted b.toValue

structure TypeAnnotationUse.Permuted (a b : TypeAnnotationUse) : Prop where
  use : a.use.Permuted b.use
  target : a.target = b.target
  path : a.path = b.path

structure LocalVariableAnnotationUse.Permuted (a b : LocalVariableAnnotationUse) : Prop where
  typeUse : a.typeUse.Permuted b.typeUse
  starts : a.starts = b.starts
  ends : a.ends = b.ends
  slots : a.slots = b.slots

/-- Annotations and attributes change places, and so may what is in the annotations. -/
structure Metadata.Permuted (a b : Metadata) : Prop where
  visibleAnnotations :
    Option.Rel (PairUp AnnotationUse.Permuted) a.visibleAnnotations b.visibleAnnotations
  invisibleAnnotations :
    Option.Rel (PairUp AnnotationUse.Permuted) a.invisibleAnnotations b.invisibleAnnotations
  visibleTypeAnnotations :
    Option.Rel (PairUp TypeAnnotationUse.Permuted) a.visibleTypeAnnotations
      b.visibleTypeAnnotations
  invisibleTypeAnnotations :
    Option.Rel (PairUp TypeAnnotationUse.Permuted) a.invisibleTypeAnnotations
      b.invisibleTypeAnnotations
  attributes : Option.Rel List.Perm a.attributes b.attributes

/-- The annotations are the same for each parameter, but in any order. -/
def ParameterAnnotations.Permuted :
    Option ParameterAnnotations → Option ParameterAnnotations → Prop :=
  Option.Rel (List.Forall₂ (Option.Rel (PairUp AnnotationUse.Permuted)))

theorem AnnotationUse.Permuted.refl (use : AnnotationUse) : use.Permuted use :=
  ElementValue.Permuted.refl use.toValue

theorem TypeAnnotationUse.Permuted.refl (use : TypeAnnotationUse) : use.Permuted use :=
  ⟨.refl use.use, rfl, rfl⟩

theorem LocalVariableAnnotationUse.Permuted.refl (use : LocalVariableAnnotationUse) :
    use.Permuted use := ⟨.refl use.typeUse, rfl, rfl, rfl⟩

theorem Metadata.Permuted.refl (data : Metadata) : data.Permuted data where
  visibleAnnotations := optionRel_refl (pairUp_refl AnnotationUse.Permuted.refl) _
  invisibleAnnotations := optionRel_refl (pairUp_refl AnnotationUse.Permuted.refl) _
  visibleTypeAnnotations := optionRel_refl (pairUp_refl TypeAnnotationUse.Permuted.refl) _
  invisibleTypeAnnotations := optionRel_refl (pairUp_refl TypeAnnotationUse.Permuted.refl) _
  attributes := optionRel_refl List.Perm.refl _

theorem ParameterAnnotations.Permuted.refl (annotations : Option ParameterAnnotations) :
    ParameterAnnotations.Permuted annotations annotations :=
  optionRel_refl (forall₂_self (optionRel_refl (pairUp_refl AnnotationUse.Permuted.refl))) _

def TypeAnnotationUse.toValue (use : TypeAnnotationUse) : ElementValue := use.use.toValue

def LocalVariableAnnotationUse.toValue (use : LocalVariableAnnotationUse) : ElementValue :=
  use.typeUse.toValue

/-- The annotations in a list that may be absent, as values. -/
def valuesIn {α : Type} (toValue : α → ElementValue) (uses : Option (List α)) :
    List ElementValue :=
  (uses.getD []).map toValue

def Metadata.values (data : Metadata) : List ElementValue :=
  valuesIn AnnotationUse.toValue data.visibleAnnotations ++
    valuesIn AnnotationUse.toValue data.invisibleAnnotations ++
    valuesIn TypeAnnotationUse.toValue data.visibleTypeAnnotations ++
    valuesIn TypeAnnotationUse.toValue data.invisibleTypeAnnotations

def ParameterAnnotations.values (annotations : Option ParameterAnnotations) :
    List ElementValue :=
  (annotations.getD []).flatMap (valuesIn AnnotationUse.toValue)

section Lists

variable {α : Type} {cmp : α → α → Ordering} [TransCmp cmp]

theorem compareOptionalUnordered_of_perm {o p : Option (List α)} (h : Option.Rel List.Perm o p) :
    compareOptional (compareUnordered cmp) o p = .eq := by
  cases h with
  | none => rfl
  | some h => exact compareUnordered_of_perm h

/-- Annotations in a list are equal in any order if each of them is. -/
theorem compareOptionalUnordered_of_pairUp {r : α → α → Prop} {toValue : α → ElementValue}
    (hcmp : ∀ a b, r a b → ¬ (toValue a).RepeatsName → cmp a b = .eq) {o p : Option (List α)}
    (h : Option.Rel (PairUp r) o p) (hv : ∀ v ∈ valuesIn toValue o, ¬ v.RepeatsName) :
    compareOptional (compareUnordered cmp) o p = .eq := by
  cases h with
  | none => rfl
  | some h =>
    refine compareUnordered_eq_eq.mpr (pairUp_imp (fun a ha b _ hab => ?_) h)
    exact hcmp a b hab (hv _ (List.mem_map_of_mem ha))

end Lists

theorem compareOptionalValues_of_permuted {o p : Option ElementValue}
    (h : Option.Rel ElementValue.Permuted o p) (hv : ∀ v ∈ o.toList, ¬ v.RepeatsName) :
    compareOptional (ElementValue.compare ctx) o p = .eq := by
  cases h with
  | none => rfl
  | some h => exact ElementValue.compare_of_permuted h (hv _ (by simp))

theorem AnnotationUse.compare_of_permuted {a b : AnnotationUse} (h : a.Permuted b)
    (ha : ¬ a.toValue.RepeatsName) : a.compare ctx b = .eq :=
  ElementValue.compare_of_permuted h ha

theorem TypeAnnotationUse.compare_of_permuted {a b : TypeAnnotationUse} (h : a.Permuted b)
    (ha : ¬ a.toValue.RepeatsName) : a.compare ctx b = .eq := by
  rw [TypeAnnotationUse.compare, AnnotationUse.compare_of_permuted h.use ha, h.target, h.path]
  simp

theorem LocalVariableAnnotationUse.compare_of_permuted {a b : LocalVariableAnnotationUse}
    (h : a.Permuted b) (ha : ¬ a.toValue.RepeatsName) : a.compare ctx b = .eq := by
  rw [LocalVariableAnnotationUse.compare, TypeAnnotationUse.compare_of_permuted h.typeUse ha,
    h.starts, h.ends, h.slots]
  simp [ReflCmp.compare_self]

theorem compareAnnotations_of_permuted {o p : Option (List AnnotationUse)}
    (h : Option.Rel (PairUp AnnotationUse.Permuted) o p)
    (hv : ∀ v ∈ valuesIn AnnotationUse.toValue o, ¬ v.RepeatsName) :
    compareOptional (compareUnordered (AnnotationUse.compare ctx)) o p = .eq :=
  compareOptionalUnordered_of_pairUp (fun _ _ hab => AnnotationUse.compare_of_permuted hab) h hv

theorem compareTypeAnnotations_of_permuted {o p : Option (List TypeAnnotationUse)}
    (h : Option.Rel (PairUp TypeAnnotationUse.Permuted) o p)
    (hv : ∀ v ∈ valuesIn TypeAnnotationUse.toValue o, ¬ v.RepeatsName) :
    compareOptional (compareUnordered (TypeAnnotationUse.compare ctx)) o p = .eq :=
  compareOptionalUnordered_of_pairUp (fun _ _ hab => TypeAnnotationUse.compare_of_permuted hab) h hv

theorem compareParameterAnnotations_of_permuted {o p : Option ParameterAnnotations}
    (h : ParameterAnnotations.Permuted o p)
    (hv : ∀ v ∈ ParameterAnnotations.values o, ¬ v.RepeatsName) :
    compareParameterAnnotations ctx o p = .eq := by
  rw [compareParameterAnnotations, compareOptional_eq_eq]
  cases h with
  | none => exact .none
  | some h =>
    refine .some (compareLists_eq_eq.mpr (forall₂_imp_of_mem (fun slot hs slot' _ hslot => ?_) h))
    exact compareAnnotations_of_permuted hslot fun v hmem =>
      hv v (List.mem_flatMap.mpr ⟨slot, hs, hmem⟩)

theorem Metadata.compare_of_permuted {a b : Metadata} (h : a.Permuted b)
    (hv : ∀ v ∈ a.values, ¬ v.RepeatsName) : a.compare ctx b = .eq := by
  simp only [values, List.forall_mem_append] at hv
  obtain ⟨⟨⟨hvisible, hinvisible⟩, hvisibleType⟩, hinvisibleType⟩ := hv
  simp only [Metadata.compare, Ordering.then_eq_eq, unless_eq_eq]
  exact ⟨.inr (compareAnnotations_of_permuted h.visibleAnnotations hvisible),
    .inr (compareAnnotations_of_permuted h.invisibleAnnotations hinvisible),
    .inr (compareTypeAnnotations_of_permuted h.visibleTypeAnnotations hvisibleType),
    .inr (compareTypeAnnotations_of_permuted h.invisibleTypeAnnotations hinvisibleType),
    .inr (compareOptionalUnordered_of_perm h.attributes)⟩

end ClassMatch
