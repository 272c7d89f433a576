import ClassMatch.Order.Annotations
import ClassMatch.Proofs.Order.Combinators

/-!
The orders of annotations are total preorders. Values nest, so the order of values is first
compared with orders that look only to some depth: each of those is built from the one before it.
-/
namespace ClassMatch

open Std Number

instance : TransCmp Binary32.totalOrder :=
  transCmp_on (fun x : Binary32 => Format.single.orderKey x.bits.toNat) compare

instance : TransCmp Binary64.totalOrder :=
  transCmp_on (fun x : Binary64 => Format.double.orderKey x.bits.toNat) compare

namespace ElementValue

theorem compareSortedValues_eq (deep : Bool) (vs vs' : List ElementValue) :
    compareSortedValues deep vs vs' = compareElements (compareSorted deep) vs vs' := by
  induction vs generalizing vs' with
  | nil => cases vs' <;> simp [compareSortedValues, compareElements]
  | cons v vs ih => cases vs' <;> simp [compareSortedValues, compareElements, ih]

/-- Order of two elements of an annotation: by name and then by value. -/
def compareNamed (cmp : ElementValue → ElementValue → Ordering) (e e' : String × ElementValue) :
    Ordering :=
  (Ord.compare e.1 e'.1).then (cmp e.2 e'.2)

theorem compareSortedElements_eq (deep : Bool) (es es' : List (String × ElementValue)) :
    compareSortedElements deep es es' =
      compareElements (compareNamed (compareSorted deep)) es es' := by
  induction es generalizing es' with
  | nil => cases es' <;> simp [compareSortedElements, compareElements]
  | cons e es ih =>
    cases es' <;> simp [compareSortedElements, compareElements, compareNamed, ih]

/-- The order of values that takes them for equal beyond the given depth. -/
def compareToDepth (deep : Bool) : Nat → ElementValue → ElementValue → Ordering
  | 0, _, _ => .eq
  | depth + 1, nested d es, nested d' es' =>
    (Ord.compare d d').then
      (if deep then compareLists (compareNamed (compareToDepth deep depth)) es es' else .eq)
  | depth + 1, array vs, array vs' => compareLists (compareToDepth deep depth) vs vs'
  | _ + 1, a, b => compareSorted deep a b

/-- Looking as deep as the first value goes is looking at all of it. -/
theorem compareSorted_eq_compareToDepth (deep : Bool) (depth : Nat) (a b : ElementValue)
    (h : sizeOf a ≤ depth) : compareSorted deep a b = compareToDepth deep depth a b := by
  induction depth generalizing a b with
  | zero => cases a <;> simp at h
  | succ depth ih =>
    cases a with
    | nested d es =>
      cases b with
      | nested d' es' =>
        have hes : ∀ e ∈ es, ∀ e', compareNamed (compareSorted deep) e e' =
            compareNamed (compareToDepth deep depth) e e' := by
          intro e he e'
          have hsize := List.sizeOf_lt_of_mem he
          obtain ⟨n, v⟩ := e
          simp only [nested.sizeOf_spec, Prod.mk.sizeOf_spec] at h hsize
          rw [compareNamed, compareNamed, ih v e'.2 (by omega)]
        simp only [compareSorted, compareToDepth, compareLists, compareSortedElements_eq,
          compareElements_congr hes]
      | _ => rfl
    | array vs =>
      cases b with
      | array vs' =>
        have hvs : ∀ v ∈ vs, ∀ v', compareSorted deep v v' = compareToDepth deep depth v v' := by
          intro v hv v'
          have hsize := List.sizeOf_lt_of_mem hv
          simp only [array.sizeOf_spec] at h
          exact ih v v' (by omega)
        simp only [compareSorted, compareToDepth, compareLists, compareSortedValues_eq,
          compareElements_congr hvs]
      | _ => rfl
    | _ => cases b <;> rfl

theorem compareToDepth_eq_rank_then (deep : Bool) (depth : Nat) (a b : ElementValue) :
    compareToDepth deep (depth + 1) a b =
      (Ord.compare a.rank b.rank).then (compareToDepth deep (depth + 1) a b) := by
  cases a <;> cases b <;> rfl

instance (cmp : ElementValue → ElementValue → Ordering) [TransCmp cmp] :
    TransCmp (compareNamed cmp) :=
  transCmp_then (transCmp_on Prod.fst Ord.compare) (transCmp_on Prod.snd cmp)

instance (deep : Bool) (depth : Nat) : TransCmp (compareToDepth deep depth) := by
  induction depth with
  | zero => exact transCmp_eq
  | succ depth ih =>
    rw [funext₂ (compareToDepth_eq_rank_then deep depth)]
    apply transCmp_of_kinds
    intro a
    cases a with
    | byte =>
      exact ⟨Int8, .byte, fun b h => by cases b <;> simp_all [rank],
        inferInstanceAs (TransOrd Int8)⟩
    | boolean =>
      exact ⟨Bool, .boolean, fun b h => by cases b <;> simp_all [rank],
        inferInstanceAs (TransOrd Bool)⟩
    | char =>
      exact ⟨Char, .char, fun b h => by cases b <;> simp_all [rank],
        inferInstanceAs (TransOrd Char)⟩
    | short =>
      exact ⟨Int16, .short, fun b h => by cases b <;> simp_all [rank],
        inferInstanceAs (TransOrd Int16)⟩
    | int =>
      exact ⟨Int32, .int, fun b h => by cases b <;> simp_all [rank],
        inferInstanceAs (TransOrd Int32)⟩
    | long =>
      exact ⟨Int64, .long, fun b h => by cases b <;> simp_all [rank],
        inferInstanceAs (TransOrd Int64)⟩
    | float =>
      exact ⟨Binary32, .float, fun b h => by cases b <;> simp_all [rank],
        inferInstanceAs (TransCmp Binary32.totalOrder)⟩
    | double =>
      exact ⟨Binary64, .double, fun b h => by cases b <;> simp_all [rank],
        inferInstanceAs (TransCmp Binary64.totalOrder)⟩
    | string =>
      exact ⟨String, .string, fun b h => by cases b <;> simp_all [rank],
        inferInstanceAs (TransOrd String)⟩
    | type =>
      exact ⟨String, .type, fun b h => by cases b <;> simp_all [rank],
        inferInstanceAs (TransOrd String)⟩
    | enumConstant =>
      exact ⟨String × String, fun x => .enumConstant x.1 x.2,
        fun b h => by cases b <;> simp_all [rank],
        transCmp_then (transCmp_on Prod.fst Ord.compare) (transCmp_on Prod.snd Ord.compare)⟩
    | nested =>
      refine ⟨String × List (String × ElementValue), fun x => .nested x.1 x.2,
        fun b h => by cases b <;> simp_all [rank],
        transCmp_then (transCmp_on Prod.fst Ord.compare) ?_⟩
      cases deep with
      | true => exact transCmp_on Prod.snd (compareLists (compareNamed (compareToDepth true depth)))
      | false => exact transCmp_eq
    | array =>
      exact ⟨List ElementValue, .array, fun b h => by cases b <;> simp_all [rank],
        inferInstanceAs (TransCmp (compareLists (compareToDepth deep depth)))⟩

instance (deep : Bool) : TransCmp (compareSorted deep) where
  eq_swap {a b} := by
    rw [compareSorted_eq_compareToDepth deep (sizeOf a + sizeOf b) a b (by omega),
      compareSorted_eq_compareToDepth deep (sizeOf a + sizeOf b) b a (by omega)]
    exact OrientedCmp.eq_swap
  isLE_trans {a b c} hab hbc := by
    have hdepth := compareSorted_eq_compareToDepth deep (sizeOf a + sizeOf b)
    rw [hdepth _ _ (by omega)] at hab hbc ⊢
    exact TransCmp.isLE_trans hab hbc

instance (ctx : Context) : TransCmp (ElementValue.compare ctx) :=
  transCmp_on sorted (compareSorted (!ctx.has .ignoreAnnotationValues))

end ElementValue

instance (ctx : Context) : TransCmp (AnnotationUse.compare ctx) :=
  transCmp_on AnnotationUse.toValue (ElementValue.compare ctx)

instance (ctx : Context) : TransCmp (TypeAnnotationUse.compare ctx) :=
  transCmp_then (transCmp_on TypeAnnotationUse.use (AnnotationUse.compare ctx)) <|
  transCmp_then (transCmp_on (fun a : TypeAnnotationUse => a.target.packed) Ord.compare) <|
  transCmp_on TypeAnnotationUse.path Ord.compare

instance (ctx : Context) : TransCmp (Label.compare ctx) :=
  transCmp_on ctx.indices Ord.compare

instance (ctx : Context) : TransCmp (LocalVariableAnnotationUse.compare ctx) :=
  transCmp_then (transCmp_on LocalVariableAnnotationUse.typeUse (TypeAnnotationUse.compare ctx)) <|
  transCmp_then (transCmp_on LocalVariableAnnotationUse.starts
    (compareLists (Label.compare ctx))) <|
  transCmp_then (transCmp_on LocalVariableAnnotationUse.ends
    (compareLists (Label.compare ctx))) <|
  transCmp_on LocalVariableAnnotationUse.slots Ord.compare

instance : TransCmp Attribute.compare :=
  transCmp_then (transCmp_on Attribute.kind Ord.compare) <|
  transCmp_on Attribute.content Ord.compare

end ClassMatch
