import ClassMatch.Proofs.Order.Declaration
import ClassMatch.Proofs.Order.Lawful
import ClassMatch.Proofs.Order.Sorting

/-!
When annotations say the same: they have the same type and give the same values for each element,
in whatever order the elements come. Without options, this is when their orders find them equal.
-/
namespace ClassMatch

open Std

namespace ElementValue

/-- The values given for the element with the name, in the order in which they are given. -/
def valuesOf (name : String) (elements : List (String × ElementValue)) : List ElementValue :=
  (elements.filter fun e => e.1 == name).map Prod.snd

/-- Identical values, apart from the order in which nested annotations give elements with different
names. -/
inductive Alike : ElementValue → ElementValue → Prop
  | refl (value : ElementValue) : Alike value value
  | nested {descriptor : String} {elements elements' : List (String × ElementValue)}
      (h : ∀ name, List.Forall₂ Alike (valuesOf name elements) (valuesOf name elements')) :
      Alike (nested descriptor elements) (nested descriptor elements')
  | array {values values' : List ElementValue} (h : List.Forall₂ Alike values values') :
      Alike (array values) (array values')

theorem alike_nested_iff {d d' : String} {es es' : List (String × ElementValue)} :
    (nested d es).Alike (nested d' es') ↔
      d = d' ∧ ∀ name, List.Forall₂ Alike (valuesOf name es) (valuesOf name es') := by
  constructor
  · intro h
    cases h with
    | refl => exact ⟨rfl, fun name => List.forall₂_same.mpr fun v _ => .refl v⟩
    | nested h => exact ⟨rfl, h⟩
  · rintro ⟨rfl, h⟩
    exact .nested h

theorem alike_array_iff {vs vs' : List ElementValue} :
    (array vs).Alike (array vs') ↔ List.Forall₂ Alike vs vs' := by
  constructor
  · intro h
    cases h with
    | refl => exact List.forall₂_same.mpr fun v _ => .refl v
    | array h => exact h
  · exact .array

theorem sortedElements_eq_map (es : List (String × ElementValue)) :
    sortedElements es = es.map fun e => (e.1, e.2.sorted) := by
  induction es with
  | nil => rfl
  | cons e es ih => rw [sortedElements, List.map_cons, ih]

theorem sortedValues_eq_map (vs : List ElementValue) : sortedValues vs = vs.map sorted := by
  induction vs with
  | nil => rfl
  | cons v vs ih => rw [sortedValues, List.map_cons, ih]

theorem valuesOf_sortedElements (name : String) (es : List (String × ElementValue)) :
    valuesOf name (sortedElements es) = (valuesOf name es).map sorted := by
  rw [sortedElements_eq_map, valuesOf, valuesOf, List.filter_map, List.map_map, List.map_map]
  rfl

theorem filter_name_eq_map (name : String) (es : List (String × ElementValue)) :
    es.filter (fun e => e.1 == name) = (valuesOf name es).map (Prod.mk name) := by
  rw [valuesOf, List.map_map]
  refine (List.map_id _).symm.trans (List.map_congr_left fun e he => ?_)
  have hname : e.1 = name := by simpa using (List.mem_filter.mp he).2
  exact Prod.ext hname rfl

/-- Sorting by name only forgets how elements with different names are mixed. -/
theorem sortElements_eq_iff {es es' : List (String × ElementValue)} :
    sortElements es = sortElements es' ↔ ∀ name, valuesOf name es = valuesOf name es' := by
  have := transCmp_on (Prod.fst : String × ElementValue → String) Ord.compare
  have hfilter (c : String × ElementValue) (es : List (String × ElementValue)) :
      es.filter (fun e => Ord.compare e.1 c.1 == .eq) = es.filter fun e => e.1 == c.1 :=
    List.filter_congr fun e _ => by
        rw [Bool.eq_iff_iff]
        simp
  refine sortBy_eq_sortBy_iff.trans ⟨fun h name => ?_, fun h c => ?_⟩
  · have hname := h (name, .boolean true)
    rw [hfilter, hfilter] at hname
    rw [valuesOf, valuesOf, hname]
  · rw [hfilter, hfilter, filter_name_eq_map, filter_name_eq_map, h]

theorem sizeOf_lt_of_mem_valuesOf {name : String} {es : List (String × ElementValue)}
    {v : ElementValue} (hv : v ∈ valuesOf name es) : sizeOf v < sizeOf es := by
  obtain ⟨e, he, rfl⟩ := List.mem_map.mp hv
  have hlt := List.sizeOf_lt_of_mem (List.mem_of_mem_filter he)
  obtain ⟨n, v⟩ := e
  simp only [Prod.mk.sizeOf_spec] at hlt ⊢
  omega

/-- Values are alike exactly if they are the same once all elements are sorted by name. -/
theorem sorted_eq_sorted_iff (a b : ElementValue) : a.sorted = b.sorted ↔ a.Alike b := by
  induction hsize : sizeOf a using Nat.strong_induction_on generalizing a b with
  | _ n ih =>
    subst hsize
    cases a with
    | nested d es => cases b with
      | nested d' es' =>
        rw [alike_nested_iff, sorted, sorted, nested.injEq, sortElements_eq_iff]
        refine and_congr_right fun _ => forall_congr' fun name => ?_
        rw [valuesOf_sortedElements, valuesOf_sortedElements, map_eq_map_iff_forall₂]
        refine forall₂_iff_of_mem fun v hv v' _ => ih _ ?_ v v' rfl
        have hlt := sizeOf_lt_of_mem_valuesOf hv
        simp only [nested.sizeOf_spec]
        omega
      | _ => exact ⟨nofun, nofun⟩
    | array vs => cases b with
      | array vs' =>
        rw [alike_array_iff, sorted, sorted, array.injEq, sortedValues_eq_map, sortedValues_eq_map,
          map_eq_map_iff_forall₂]
        refine forall₂_iff_of_mem fun v hv v' _ => ih _ ?_ v v' rfl
        have hlt := List.sizeOf_lt_of_mem hv
        simp only [array.sizeOf_spec]
        omega
      | _ => exact ⟨nofun, nofun⟩
    | _ =>
      constructor
      · intro h
        cases b <;> cases h
        exact .refl _
      · rintro ⟨⟩
        rfl

theorem compare_eq_eq {ctx : Context} (h : ctx.has .ignoreAnnotationValues = false)
    {a b : ElementValue} : a.compare ctx b = .eq ↔ a.Alike b := by
  rw [compare, h, Bool.not_false, LawfulEqCmp.compare_eq_iff_eq, sorted_eq_sorted_iff]

end ElementValue

/-- Annotations of the same type that give alike values for the same elements. -/
@[mk_iff]
structure AnnotationUse.Alike (a b : AnnotationUse) : Prop where
  descriptor : a.descriptor = b.descriptor
  values : ∀ name, List.Forall₂ ElementValue.Alike (ElementValue.valuesOf name a.elements)
    (ElementValue.valuesOf name b.elements)

@[mk_iff]
structure TypeAnnotationUse.Alike (a b : TypeAnnotationUse) : Prop where
  use : a.use.Alike b.use
  target : a.target = b.target
  path : a.path = b.path

/-- Annotations and attributes are alike as multisets. -/
@[mk_iff]
structure Metadata.Alike (a b : Metadata) : Prop where
  visibleAnnotations :
    Option.Rel (PairUp AnnotationUse.Alike) a.visibleAnnotations b.visibleAnnotations
  invisibleAnnotations :
    Option.Rel (PairUp AnnotationUse.Alike) a.invisibleAnnotations b.invisibleAnnotations
  visibleTypeAnnotations :
    Option.Rel (PairUp TypeAnnotationUse.Alike) a.visibleTypeAnnotations b.visibleTypeAnnotations
  invisibleTypeAnnotations :
    Option.Rel (PairUp TypeAnnotationUse.Alike) a.invisibleTypeAnnotations
      b.invisibleTypeAnnotations
  attributes : Option.Rel List.Perm a.attributes b.attributes

variable {ctx : Context}

theorem AnnotationUse.compare_eq_eq (h : ctx.has .ignoreAnnotationValues = false)
    {a b : AnnotationUse} : a.compare ctx b = .eq ↔ a.Alike b := by
  rw [AnnotationUse.compare, ElementValue.compare_eq_eq h, toValue, toValue,
    ElementValue.alike_nested_iff, alike_iff]

theorem TypeAnnotationUse.compare_eq_eq (h : ctx.has .ignoreAnnotationValues = false)
    {a b : TypeAnnotationUse} : a.compare ctx b = .eq ↔ a.Alike b := by
  have htarget : a.target.packed = b.target.packed ↔ a.target = b.target := by
    cases a.target
    cases b.target
    simp
  simp only [TypeAnnotationUse.compare, Ordering.then_eq_eq, AnnotationUse.compare_eq_eq h,
    LawfulEqCmp.compare_eq_iff_eq, htarget, alike_iff]

theorem Metadata.compare_eq_eq (h : ctx.options = .empty) {a b : Metadata} :
    a.compare ctx b = .eq ↔ a.Alike b := by
  simp only [Metadata.compare, Ordering.then_eq_eq, unless_eq_eq, Context.has_eq_false h,
    Bool.false_eq_true, false_or, compareOptional_eq_eq, compareUnordered_eq_eq,
    AnnotationUse.compare_eq_eq (Context.has_eq_false h _),
    TypeAnnotationUse.compare_eq_eq (Context.has_eq_false h _), LawfulEqCmp.compare_eq_iff_eq,
    pairUp_eq_iff, alike_iff]

end ClassMatch
