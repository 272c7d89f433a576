import ClassMatch.Settings.Context

/-!
Ways to build an order on a whole from orders on its parts. Parts are compared one after the other
with `Ordering.then`; what is absent comes first; lists are compared by length, and then element by
element as they stand or after sorting.
-/
namespace ClassMatch

/-- What is absent comes before all that is present. -/
def compareOptional {α : Type} (cmp : α → α → Ordering) : Option α → Option α → Ordering
  | none, none => .eq
  | none, some _ => .lt
  | some _, none => .gt
  | some a, some b => cmp a b

/-- The first difference between elements in the same place; the end of either list ends the
comparison. -/
def compareElements {α : Type} (cmp : α → α → Ordering) : List α → List α → Ordering
  | a :: as, b :: bs => (cmp a b).then (compareElements cmp as bs)
  | _, _ => .eq

/-- By length and then by the first difference. -/
def compareLists {α : Type} (cmp : α → α → Ordering) (as bs : List α) : Ordering :=
  (compare as.length bs.length).then (compareElements cmp as bs)

/-- Puts an element into a descending list, in front of the first element it is not below. -/
def insertDescending {α : Type} (cmp : α → α → Ordering) (a : α) : List α → List α
  | [] => [a]
  | b :: bs => if cmp a b = .lt then b :: insertDescending cmp a bs else a :: b :: bs

/-- The elements in descending order, of equal elements the later ones first. -/
def sortDescending {α : Type} (cmp : α → α → Ordering) (as : List α) : List α :=
  as.foldl (fun sorted a => insertDescending cmp a sorted) []

/-- The elements in ascending order; equal elements keep their order. -/
def sortBy {α : Type} (cmp : α → α → Ordering) (as : List α) : List α :=
  (sortDescending cmp as).reverse

theorem insertDescending_perm {α : Type} (cmp : α → α → Ordering) (a : α) (as : List α) :
    (insertDescending cmp a as).Perm (a :: as) := by
  induction as with
  | nil => rfl
  | cons b bs ih =>
    by_cases h : cmp a b = .lt
    · rw [insertDescending, if_pos h]
      exact (ih.cons b).trans (.swap a b bs)
    · rw [insertDescending, if_neg h]

theorem sortDescending_perm {α : Type} (cmp : α → α → Ordering) (as : List α) :
    (sortDescending cmp as).Perm as := by
  have key (sorted : List α) :
      (as.foldl (fun sorted a => insertDescending cmp a sorted) sorted).Perm (as ++ sorted) := by
    induction as generalizing sorted with
    | nil => rfl
    | cons a as ih =>
      exact (ih _).trans (((insertDescending_perm cmp a sorted).append_left as).trans
        List.perm_middle)
  simpa [sortDescending] using key []

/-- Sorting only moves elements. -/
theorem sortBy_perm {α : Type} (cmp : α → α → Ordering) (as : List α) : (sortBy cmp as).Perm as :=
  (List.reverse_perm _).trans (sortDescending_perm cmp as)

/-- By length and then, after sorting, by the first difference. -/
def compareUnordered {α : Type} (cmp : α → α → Ordering) (as bs : List α) : Ordering :=
  (compare as.length bs.length).then (compareElements cmp (sortBy cmp as) (sortBy cmp bs))

/-- An ignored part makes no difference. -/
@[macro_inline]
def Context.unless (ctx : Context) (option : CheckOption) (order : Ordering) : Ordering :=
  if ctx.has option then .eq else order

end ClassMatch
