import ClassMatch.Order.Basic
import Mathlib

/-!
Laws of the ways to build an order on a whole from orders on its parts. Each of them makes a total
preorder of total preorders, so that the order of a node kind is one as soon as its parts are.
-/
namespace ClassMatch

open Std

variable {α β : Type}

/-- An order taken over from another type. -/
theorem transCmp_on (f : α → β) (cmp : β → β → Ordering) [TransCmp cmp] :
    TransCmp fun a b => cmp (f a) (f b) where
  eq_swap := OrientedCmp.eq_swap
  isLE_trans := TransCmp.isLE_trans

theorem transCmp_then {f g : α → α → Ordering} (hf : TransCmp f) (hg : TransCmp g) :
    TransCmp fun a b => (f a b).then (g a b) :=
  inferInstanceAs (TransCmp (compareLex f g))

theorem transCmp_eq : TransCmp fun _ _ : α => Ordering.eq where
  eq_swap := rfl
  isLE_trans := fun _ _ => rfl

/-- An ignored part makes no order worse. -/
theorem transCmp_unless (ctx : Context) (option : CheckOption) {f : α → α → Ordering}
    (hf : TransCmp f) : TransCmp fun a b => ctx.unless option (f a b) := by
  unfold Context.unless
  cases ctx.has option with
  | true => exact transCmp_eq
  | false => exact hf

/-- Values are ordered by kind, and those of one kind by what they are made of. -/
theorem transCmp_of_kinds {rank : α → Nat} {order : α → α → Ordering}
    (h : ∀ a, ∃ (β : Type) (make : β → α), (∀ b, rank b = rank a → ∃ x, make x = b) ∧
      TransCmp fun x y => order (make x) (make y)) :
    TransCmp fun a b => (compare (rank a) (rank b)).then (order a b) where
  eq_swap {a b} := by
    rw [Ordering.swap_then, ← OrientedCmp.eq_swap]
    cases hr : compare (rank a) (rank b) with
    | lt => rfl
    | gt => rfl
    | eq =>
      obtain ⟨β, make, hmake, ho⟩ := h a
      obtain ⟨x, rfl⟩ := hmake a rfl
      obtain ⟨y, rfl⟩ := hmake b (LawfulEqCmp.eq_of_compare hr).symm
      exact ho.eq_swap
  isLE_trans {a b c} hab hbc := by
    simp only [Ordering.isLE_then_iff_or] at *
    rcases hab with hab | ⟨hab, hab'⟩
    · rcases hbc with hbc | ⟨hbc, -⟩
      · exact .inl (TransCmp.lt_trans hab hbc)
      · exact .inl (TransCmp.lt_of_lt_of_eq hab hbc)
    · rcases hbc with hbc | ⟨hbc, hbc'⟩
      · exact .inl (TransCmp.lt_of_eq_of_lt hab hbc)
      · refine .inr ⟨TransCmp.eq_trans hab hbc, ?_⟩
        have hb : rank b = rank a := (LawfulEqCmp.eq_of_compare hab).symm
        have hc : rank c = rank a := (LawfulEqCmp.eq_of_compare hbc).symm.trans hb
        obtain ⟨β, make, hmake, ho⟩ := h a
        obtain ⟨x, rfl⟩ := hmake a rfl
        obtain ⟨y, rfl⟩ := hmake b hb
        obtain ⟨z, rfl⟩ := hmake c hc
        exact ho.isLE_trans hab' hbc'

/-- A value that is the only one of its kind is made of nothing. -/
theorem made_of_alone {rank : α → Nat} {order : α → α → Ordering} {a : α}
    (h : ∀ b, rank b = rank a → a = b) (ho : order a a = .eq) :
    ∃ (β : Type) (make : β → α), (∀ b, rank b = rank a → ∃ x, make x = b) ∧
      TransCmp fun x y => order (make x) (make y) :=
  ⟨Unit, fun _ => a, fun b hb => ⟨(), h b hb⟩, by simpa only [ho] using transCmp_eq⟩

/-- A context without options leaves nothing out. -/
theorem Context.has_eq_false {ctx : Context} (h : ctx.options = .empty)
    (option : CheckOption) : ctx.has option = false := by
  rw [Context.has, h]
  rfl

theorem unless_of_has {ctx : Context} {option : CheckOption} (h : ctx.has option = true)
    (order : Ordering) : ctx.unless option order = .eq := if_pos h

@[simp] theorem unless_eq_eq {ctx : Context} {option : CheckOption} {order : Ordering} :
    ctx.unless option order = .eq ↔ ctx.has option = true ∨ order = .eq := by
  unfold Context.unless
  cases ctx.has option <;> simp

instance (cmp : α → α → Ordering) [TransCmp cmp] : TransCmp (compareOptional cmp) where
  eq_swap {a b} := by
    cases a <;> cases b <;> simp only [compareOptional, Ordering.swap]
    exact OrientedCmp.eq_swap
  isLE_trans {a b c} hab hbc := by
    cases a <;> cases b <;> cases c <;> simp_all only [compareOptional, Ordering.isLE,
      Bool.false_eq_true]
    exact TransCmp.isLE_trans hab hbc

@[simp] theorem compareOptional_some (cmp : α → α → Ordering) (a b : α) :
    compareOptional cmp (some a) (some b) = cmp a b := rfl

theorem compareElements_congr {α : Type} {cmp cmp' : α → α → Ordering} {as : List α}
    (h : ∀ a ∈ as, ∀ b, cmp a b = cmp' a b) (bs : List α) :
    compareElements cmp as bs = compareElements cmp' as bs := by
  induction as generalizing bs with
  | nil => cases bs <;> rfl
  | cons a as ih =>
    cases bs with
    | nil => rfl
    | cons b bs =>
      rw [compareElements, compareElements, h a (by simp),
        ih (fun a' ha' => h a' (by simp [ha']))]

/-- Lists of the same length are compared as words are. -/
theorem compareLists_eq_compareLex (cmp : α → α → Ordering) (as bs : List α) :
    compareLists cmp as bs = (compare as.length bs.length).then (as.compareLex cmp bs) := by
  unfold compareLists
  cases h : compare as.length bs.length with
  | lt => rfl
  | gt => rfl
  | eq =>
    have hlen : as.length = bs.length := LawfulEqCmp.eq_of_compare h
    clear h
    simp only [Ordering.then]
    induction as generalizing bs with
    | nil => cases bs with
      | nil => simp [compareElements, List.compareLex_nil_nil]
      | cons => simp at hlen
    | cons a as ih => cases bs with
      | nil => simp at hlen
      | cons b bs =>
        rw [compareElements, List.compareLex_cons_cons, ih bs (by simpa using hlen)]

instance (cmp : α → α → Ordering) [TransCmp cmp] : TransCmp (compareLists cmp) := by
  rw [funext₂ (compareLists_eq_compareLex cmp)]
  exact transCmp_then (transCmp_on List.length compare) inferInstance

theorem length_sortBy (cmp : α → α → Ordering) (as : List α) :
    (sortBy cmp as).length = as.length := (sortBy_perm cmp as).length_eq

/-- Lists out of order are compared like lists in order once they are sorted. -/
theorem compareUnordered_eq_compareLists (cmp : α → α → Ordering) (as bs : List α) :
    compareUnordered cmp as bs = compareLists cmp (sortBy cmp as) (sortBy cmp bs) := by
  rw [compareUnordered, compareLists, length_sortBy, length_sortBy]

instance (cmp : α → α → Ordering) [TransCmp cmp] : TransCmp (compareUnordered cmp) := by
  rw [funext₂ (compareUnordered_eq_compareLists cmp)]
  exact transCmp_on (sortBy cmp) (compareLists cmp)

end ClassMatch
