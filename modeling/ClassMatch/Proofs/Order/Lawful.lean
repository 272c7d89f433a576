import ClassMatch.Proofs.Order.Code

/-!
Orders in which only identical values are equal: floating point numbers are told apart bit by bit,
and handles, constants, attributes and values of annotations in every part.
-/
namespace ClassMatch

open Std Number

theorem Number.Format.orderKey_injective (f : Format) : Function.Injective f.orderKey := by
  intro a b h
  simp only [Format.orderKey, Format.isNegative, decide_eq_true_eq] at h
  split at h <;> split at h <;> omega

instance : LawfulEqCmp Binary32.totalOrder where
  eq_of_compare {a b} h := by
    have hbits := Format.orderKey_injective _ (LawfulEqCmp.eq_of_compare h)
    cases a
    cases b
    simp_all [UInt32.toNat_inj]

instance : LawfulEqCmp Binary64.totalOrder where
  eq_of_compare {a b} h := by
    have hbits := Format.orderKey_injective _ (LawfulEqCmp.eq_of_compare h)
    cases a
    cases b
    simp_all [UInt64.toNat_inj]

instance : LawfulEqCmp Handle.compare where
  eq_of_compare {a b} h := by
    simp only [Handle.compare, Ordering.then_eq_eq, LawfulEqCmp.compare_eq_iff_eq] at h
    cases a
    cases b
    simp_all

instance : LawfulEqCmp Constant.compare where
  eq_of_compare {a b} h := by
    cases a <;> cases b <;> simp_all [Constant.compare, Constant.rank]

instance : LawfulEqCmp Attribute.compare where
  eq_of_compare {a b} h := by
    simp only [Attribute.compare, Ordering.then_eq_eq, LawfulEqCmp.compare_eq_iff_eq] at h
    cases a
    cases b
    simp_all

namespace ElementValue

mutual

/-- Values are equal at every depth only if they are the same. -/
theorem eq_of_compareSorted (a b : ElementValue) (h : compareSorted true a b = .eq) : a = b := by
  cases a with
  | nested d es => cases b with
    | nested d' es' =>
      simp only [compareSorted, if_true, Ordering.then_eq_eq, LawfulEqCmp.compare_eq_iff_eq] at h
      rw [h.1, eq_of_compareSortedElements es es' h.2.1 h.2.2]
    | _ => simp [compareSorted, rank] at h
  | array vs => cases b with
    | array vs' =>
      simp only [compareSorted, Ordering.then_eq_eq, LawfulEqCmp.compare_eq_iff_eq] at h
      rw [eq_of_compareSortedValues vs vs' h.1 h.2]
    | _ => simp [compareSorted, rank] at h
  | _ => cases b <;> simp_all [compareSorted, rank]

theorem eq_of_compareSortedElements (es es' : List (String × ElementValue))
    (hlen : es.length = es'.length) (h : compareSortedElements true es es' = .eq) : es = es' := by
  cases es with
  | nil => exact (List.length_eq_zero_iff.mp hlen.symm).symm
  | cons e es => cases es' with
    | nil => simp at hlen
    | cons e' es' =>
      obtain ⟨n, v⟩ := e
      obtain ⟨n', v'⟩ := e'
      simp only [compareSortedElements, Ordering.then_eq_eq, LawfulEqCmp.compare_eq_iff_eq] at h
      rw [h.1.1, eq_of_compareSorted v v' h.1.2,
        eq_of_compareSortedElements es es' (by simpa using hlen) h.2]

theorem eq_of_compareSortedValues (vs vs' : List ElementValue) (hlen : vs.length = vs'.length)
    (h : compareSortedValues true vs vs' = .eq) : vs = vs' := by
  cases vs with
  | nil => exact (List.length_eq_zero_iff.mp hlen.symm).symm
  | cons v vs => cases vs' with
    | nil => simp at hlen
    | cons v' vs' =>
      simp only [compareSortedValues, Ordering.then_eq_eq] at h
      rw [eq_of_compareSorted v v' h.1,
        eq_of_compareSortedValues vs vs' (by simpa using hlen) h.2]

end

instance : LawfulEqCmp (compareSorted true) where
  eq_of_compare {a b} h := eq_of_compareSorted a b h

end ElementValue

end ClassMatch
