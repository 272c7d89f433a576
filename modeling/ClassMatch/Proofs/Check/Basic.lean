import ClassMatch.Check.Code
import ClassMatch.Proofs.Order.Sorting

/-!
When checks of values and of lists pass. Each of them passes exactly if a comparison finds both
sides equal, at whatever trail it is run. A check made of others fails as the first one that fails.
-/
namespace ClassMatch

open Std

variable {trail : Trail} {ctx : Context}

theorem Report.passes_iff {report : Report} : report.passes = true ↔ report.failure = none :=
  Option.isNone_iff_eq_none

namespace Check

@[simp] theorem passes_pass : (pass.run trail).passes = true := rfl

@[simp] theorem passes_fail (message : String) : ((fail message).run trail).passes = false := rfl

@[simp] theorem passes_failUsing (comparator message : String) :
    ((failUsing comparator message).run trail).passes = false := rfl

@[simp] theorem passes_log (events : List Event) : ((log events).run trail).passes = true := rfl

@[simp] theorem passes_field (part : String) (check : Check) :
    ((field part check).run trail).passes =
      (check.run (trail.push (Trail.fieldCrumb part))).passes := rfl

theorem failure_andThen (first second : Check) (trail : Trail) :
    ((first.andThen second).run trail).failure =
      ((first.run trail).failure).or (second.run trail).failure := by
  rcases h : first.run trail with ⟨events, _ | failure⟩ <;> simp [andThen, h, Report.after]

/-- Checks that are run in turn fail as the first of them does that fails. -/
theorem failure_all (checks : List Check) (trail : Trail) :
    ((all checks).run trail).failure = checks.findSome? fun check => (check.run trail).failure := by
  induction checks with
  | nil => rfl
  | cons check checks ih =>
    rw [all, failure_andThen, ih, List.findSome?_cons]
    cases (check.run trail).failure <;> rfl

theorem failure_enter (crumb : String) (check : Check) (trail : Trail) :
    ((enter crumb check).run trail).failure = (check.run (trail.push crumb)).failure := rfl

end Check

@[simp] theorem passes_checkUnless (option : CheckOption) (check : Check) :
    ((ctx.checkUnless option check).run trail).passes =
      (ctx.has option || (check.run trail).passes) := by
  unfold Context.checkUnless
  cases ctx.has option <;> rfl

@[simp] theorem passes_checkValue {α : Type} [DecidableEq α] [Shown α] {actual expected : α} :
    ((checkValue actual expected).run trail).passes = true ↔ actual = expected := by
  unfold checkValue
  split <;> simp_all

@[simp] theorem passes_checkLeaf {k : Kind} {actual expected : k.Node} :
    ((checkLeaf k ctx actual expected).run trail).passes = true ↔
      k.compare ctx actual expected = .eq := by
  unfold checkLeaf
  split <;> simp_all

@[simp] theorem passes_checkLeafUsing {k : Kind} {actual expected : k.Node} :
    ((checkLeafUsing k ctx actual expected).run trail).passes = true ↔
      k.compare ctx actual expected = .eq := by
  unfold checkLeafUsing
  split <;> simp_all

@[simp] theorem passes_checkLabels {actual expected : List Label} :
    ((checkLabels ctx actual expected).run trail).passes = true ↔
      compareLists (Label.compare ctx) actual expected = .eq := by
  unfold checkLabels
  split <;> simp_all

/-- A check of nodes is one of optional nodes, which are equal when both are absent. -/
theorem passes_checkOptional {k : Kind} {check : k.Node → k.Node → Check}
    {cmp : k.Node → k.Node → Ordering}
    (h : ∀ a e, ((check a e).run trail).passes = true ↔ cmp a e = .eq)
    (actual expected : Option k.Node) :
    ((checkOptional k ctx check actual expected).run trail).passes = true ↔
      compareOptional cmp actual expected = .eq := by
  cases actual with
  | none => cases expected <;> simp [checkOptional, compareOptional]
  | some a => cases expected with
    | none => simp [checkOptional, compareOptional]
    | some e => exact h a e

@[simp] theorem passes_checkOptional_leaf {k : Kind} {actual expected : Option k.Node} :
    ((checkOptional k ctx (checkLeaf k ctx) actual expected).run trail).passes = true ↔
      compareOptional (k.compare ctx) actual expected = .eq :=
  passes_checkOptional (fun _ _ => passes_checkLeaf) actual expected

theorem passes_checkPresent {k : Kind} {check : List k.Node → List k.Node → Check}
    {cmp : List k.Node → List k.Node → Ordering}
    (h : ∀ as es, ((check as es).run trail).passes = true ↔ cmp as es = .eq)
    (actual expected : Option (List k.Node)) :
    ((checkPresent k ctx check actual expected).run trail).passes = true ↔
      compareOptional cmp actual expected = .eq := by
  cases actual with
  | none => cases expected <;> simp [checkPresent, compareOptional]
  | some as => cases expected with
    | none => simp [checkPresent, compareOptional]
    | some es => exact h as es

section Unmatched

variable {α : Type} {cmp : α → α → Ordering}

/-- Nothing is left of two lists exactly if they are equal element by element. -/
theorem unmatched_eq_nil {actual expected : List α} :
    unmatched cmp actual expected = ([], []) ↔
      List.Forall₂ (fun a e => cmp a e = .eq) actual expected := by
  fun_induction unmatched cmp actual expected with
  | case1 expected => cases expected <;> simp
  | case2 a actual => simp
  | case3 a actual e expected h rest ih => simp [h]
  | case4 a actual e expected h rest ih => simp [h]
  | case5 a actual e expected h ih => simp [h, ih]

theorem unmatched_sublist (actual expected : List α) :
    (unmatched cmp actual expected).1.Sublist expected ∧
      (unmatched cmp actual expected).2.Sublist actual := by
  fun_induction unmatched cmp actual expected with
  | case1 expected => simp
  | case2 a actual => simp
  | case3 a actual e expected h rest ih => exact ⟨ih.1, ih.2.cons_cons a⟩
  | case4 a actual e expected h rest ih => exact ⟨ih.1.cons_cons e, ih.2⟩
  | case5 a actual e expected h ih => exact ⟨ih.1.cons e, ih.2.cons a⟩

theorem atPositions_eq_nil {list : List α} {positions : List (α × Nat)}
    (h : ∀ entry ∈ positions, entry ∈ list.zipIdx) :
    atPositions list positions = [] ↔ positions = [] := by
  constructor
  · intro hnil
    by_contra hne
    obtain ⟨entry, hentry⟩ := List.exists_mem_of_ne_nil positions hne
    have hmem : entry.1 ∈ atPositions list positions := by
      refine List.mem_map_of_mem (List.mem_filter.mpr ⟨h entry hentry, ?_⟩)
      simpa using ⟨entry.1, hentry⟩
    simp [hnil] at hmem
  · rintro rfl
    simp [atPositions]

/-- Sorting elements together with their positions sorts the elements. -/
theorem map_fst_sortBy_zipIdx (list : List α) :
    (sortBy (fun a b : α × Nat => cmp a.1 b.1) list.zipIdx).map Prod.fst = sortBy cmp list := by
  have h : sortBy cmp (list.zipIdx.map Prod.fst) =
      (sortBy (fun a b : α × Nat => cmp a.1 b.1) list.zipIdx).map Prod.fst :=
    sortBy_map fun _ _ _ _ => rfl
  rw [← h, List.zipIdx_map_fst]

theorem differences_eq_nil {actual expected : List α} :
    differences cmp actual expected = ([], []) ↔ compareUnordered cmp actual expected = .eq := by
  let byElement (a b : α × Nat) : Ordering := cmp a.1 b.1
  have hsub := @unmatched_sublist _ byElement (sortBy byElement actual.zipIdx)
    (sortBy byElement expected.zipIdx)
  have hexpected : ∀ entry ∈ (unmatched byElement (sortBy byElement actual.zipIdx)
      (sortBy byElement expected.zipIdx)).1, entry ∈ expected.zipIdx :=
    fun entry h => (sortBy_perm byElement _).mem_iff.mp (hsub.1.subset h)
  have hactual : ∀ entry ∈ (unmatched byElement (sortBy byElement actual.zipIdx)
      (sortBy byElement expected.zipIdx)).2, entry ∈ actual.zipIdx :=
    fun entry h => (sortBy_perm byElement _).mem_iff.mp (hsub.2.subset h)
  rw [compareUnordered_eq_compareLists, compareLists_eq_eq, ← map_fst_sortBy_zipIdx actual,
    ← map_fst_sortBy_zipIdx expected, List.forall₂_map_left_iff, List.forall₂_map_right_iff,
    ← unmatched_eq_nil, Prod.ext_iff, Prod.ext_iff]
  exact and_congr (atPositions_eq_nil hexpected) (atPositions_eq_nil hactual)

end Unmatched

/-- The elements of two lists are the same in any order if the lists are equal after sorting,
whatever the comparator is. -/
@[simp] theorem passes_checkAnyOrder {k : Kind} {c : Comparator k.Node}
    {actual expected : Option (List k.Node)} :
    ((checkAnyOrder k c ctx actual expected).run trail).passes = true ↔
      compareOptional (compareUnordered (c.compare ctx)) actual expected = .eq := by
  refine passes_checkPresent (fun as es => ?_) actual expected
  rw [← differences_eq_nil]
  rcases differences (c.compare ctx) as es with ⟨notFound, notExpected⟩
  cases notFound <;> cases notExpected <;> simp [Check.passes_all]

@[simp] theorem passes_checkUnordered {k : Kind} {actual expected : Option (List k.Node)} :
    ((checkUnordered k ctx actual expected).run trail).passes = true ↔
      compareOptional (compareUnordered (k.compare ctx)) actual expected = .eq :=
  passes_checkAnyOrder

/-- Checks of the elements of a list, each of which may look at its index. -/
theorem passes_all_zipIdx {α : Type} {check : α × Nat → Check} {p : α → Prop} (list : List α)
    (h : ∀ a i, ((check (a, i)).run trail).passes = true ↔ p a) :
    ((Check.all (list.zipIdx.map check)).run trail).passes = true ↔ ∀ a ∈ list, p a := by
  rw [Check.passes_all, List.all_map, List.all_eq_true]
  constructor
  · intro hall a ha
    rw [← List.zipIdx_map_fst 0 list] at ha
    obtain ⟨⟨a, i⟩, hi, rfl⟩ := List.mem_map.mp ha
    exact (h a i).mp (hall _ hi)
  · rintro hall ⟨a, i⟩ hi
    exact (h a i).mpr (hall a (List.fst_mem_of_mem_zipIdx hi))

theorem passes_checkInOrder {k : Kind} {check : k.Node → k.Node → Check}
    {cmp : k.Node → k.Node → Ordering}
    (h : ∀ trail a e, ((check a e).run trail).passes = true ↔ cmp a e = .eq)
    (actual expected : Option (List k.Node)) :
    ((checkInOrder k ctx check actual expected).run trail).passes = true ↔
      compareOptional (compareLists cmp) actual expected = .eq := by
  refine passes_checkPresent (fun as es => ?_) actual expected
  rw [compareLists_eq_eq, List.forall₂_iff_zip]
  by_cases hlen : as.length = es.length
  · rw [if_pos hlen, passes_all_zipIdx (p := fun pair => cmp pair.1 pair.2 = .eq)]
    · simp [hlen]
    · rintro ⟨a, e⟩ i
      exact h _ a e
  · simp [hlen]

theorem firstDifference?_eq_none (ctx : Context) (actual expected : List Instruction) :
    firstDifference? ctx actual expected = none ↔
      ∀ a e, (a, e) ∈ actual.zip expected → a.compare ctx e = .eq := by
  simp [firstDifference?, List.findIdx?_eq_none_iff]

@[simp] theorem passes_checkInstructions {actual expected : List Instruction} :
    ((checkInstructions ctx actual expected).run trail).passes = true ↔
      compareLists (Instruction.compare ctx) actual expected = .eq := by
  rw [compareLists_eq_eq, List.forall₂_iff_zip, checkInstructions]
  by_cases hlen : actual.length = expected.length
  · have hnone := firstDifference?_eq_none ctx actual expected
    rw [if_pos hlen]
    cases hd : firstDifference? ctx actual expected with
    | none => simpa [hlen, hd] using hnone.mp hd
    | some index => simpa [hlen, hd] using hnone
  · simp [hlen]

end ClassMatch
