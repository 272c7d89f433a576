import ClassMatch.Proofs.Check.Basic
import ClassMatch.Proofs.Order.Multisets

/-!
What a check in any order reports. Of the elements that are equal to each other, one list may hold
more than the other; those it holds too many are the last ones, wherever they stand in the list, and
exactly they are reported, in the order of the list.
-/
namespace ClassMatch

open Std

variable {α : Type}

section Unmatched

variable {cmp : α → α → Ordering}

variable [TransCmp cmp]

end Unmatched

section Positions

end Positions

section Differences

variable {cmp : α → α → Ordering}

/-- The order of entries by what they hold. -/
def byElement (cmp : α → α → Ordering) (a b : α × Nat) : Ordering := cmp a.1 b.1

instance [OrientedCmp cmp] : OrientedCmp (byElement cmp) where
  eq_swap {a b} := @OrientedCmp.eq_swap _ cmp _ a.1 b.1

instance [TransCmp cmp] : TransCmp (byElement cmp) := transCmp_on Prod.fst cmp

end Differences

end ClassMatch
