import ClassMatch.Proofs.Label.Invariance
import ClassMatch.Proofs.Label.Numbering
import ClassMatch.Proofs.Order.Declaration
import ClassMatch.Proofs.Order.Sorting

/-!
How labels are resolved when methods are compared. Each pair of methods has a context of its own,
but where the methods of a family agree about the places of their common labels, one context does
for all of them.
-/
namespace ClassMatch

/-- A label that occurs in two of the methods, as they are compared, is placed at the same ordinal
in both, or in neither. -/
def Context.LabelConsistent (ctx : Context) (methods : Set Method) : Prop :=
  ∀ m ∈ methods, ∀ n ∈ methods, ∀ l ∈ (ctx.view m).labels, l ∈ (ctx.view n).labels →
    ordinals (ctx.view m).instructions l = ordinals (ctx.view n).instructions l

instance (ctx : Context) (ms : List Method) : Decidable (ctx.LabelConsistent {m | m ∈ ms}) :=
  inferInstanceAs (Decidable (∀ m ∈ ms, ∀ n ∈ ms, ∀ l ∈ (ctx.view m).labels,
    l ∈ (ctx.view n).labels →
      ordinals (ctx.view m).instructions l = ordinals (ctx.view n).instructions l))

namespace Context

variable {ctx : Context} {actual expected : List Instruction} {l : Label}

/-- Where the expected list does not contradict the actual one, a label is what it is there. -/
theorem forInstructions_indices_actual (hf : ctx.fixed = false)
    (h : l ∈ placedLabels expected → ordinals actual l = ordinals expected l) :
    (ctx.forInstructions actual expected).indices l =
      (ordinals actual l).or (ctx.indices l) := by
  rw [forInstructions_indices hf]
  by_cases hl : l ∈ placedLabels expected
  · rw [← h hl, Option.or_self]
  · rw [ordinals_eq_none.mpr hl, Option.or_none]

theorem forInstructions_indices_expected (hf : ctx.fixed = false)
    (h : l ∈ placedLabels actual → ordinals actual l = ordinals expected l) :
    (ctx.forInstructions actual expected).indices l =
      (ordinals expected l).or (ctx.indices l) := by
  rw [forInstructions_indices hf]
  by_cases hl : l ∈ placedLabels actual
  · rw [h hl, Option.or_self]
  · rw [ordinals_eq_none.mpr hl, Option.none_or]

theorem forInstructions_options : (ctx.forInstructions actual expected).options = ctx.options := by
  unfold forInstructions
  split <;> rfl

theorem view_eq_withoutLineNumbers (h : ctx.has .ignoreLineNumbers = true) (m : Method) :
    ctx.view m = m.withoutLineNumbers := if_pos h

theorem view_eq_self (h : ctx.has .ignoreLineNumbers = false) (m : Method) : ctx.view m = m := by
  rw [view, h]
  rfl

/-- The methods of a consistent family agree on one index for each label. -/
theorem LabelConsistent.exists_indices {methods : Set Method} (h : ctx.LabelConsistent methods) :
    ∃ indices : LabelIndices, ∀ m ∈ methods, ∀ l ∈ (ctx.view m).labels,
      indices l = (ordinals (ctx.view m).instructions l).or (ctx.indices l) := by
  have key (l : Label) : ∃ index, ∀ m ∈ methods, l ∈ (ctx.view m).labels →
      index = (ordinals (ctx.view m).instructions l).or (ctx.indices l) := by
    by_cases hl : ∃ m ∈ methods, l ∈ (ctx.view m).labels
    · obtain ⟨m, hm, hl⟩ := hl
      refine ⟨(ordinals (ctx.view m).instructions l).or (ctx.indices l), fun n hn hl' => ?_⟩
      rw [h m hm n hn l hl hl']
    · exact ⟨none, fun m hm hl' => absurd ⟨m, hm, hl'⟩ hl⟩
  choose indices hindices using key
  exact ⟨indices, fun m hm l hl => hindices l m hm hl⟩

end Context

namespace Method

variable {ctx : Context} {methods : Set Method}

/-- Orders of bodies that give the same indices to the labels of both methods are the same. -/
theorem compareBodies_congr {ctx' : Context} {a b : Method} (ha : ctx.Matches ctx' id a.labels)
    (hb : ctx.Matches ctx' id b.labels) : compareBodies ctx' a b = compareBodies ctx a b := by
  have h := compareBodies_relabel ha hb
  rwa [relabel_id, relabel_id] at h

/-- All methods of a consistent family can be compared under one context for their bodies. -/
theorem exists_resolved (h : ctx.fixed = true ∨ ctx.LabelConsistent methods) :
    ∃ body : Context, ∀ m ∈ methods, ∀ n ∈ methods,
      m.compare ctx n = compareResolved ctx body (ctx.view m) (ctx.view n) := by
  cases hf : ctx.fixed with
  | true =>
    refine ⟨ctx, fun m _ n _ => ?_⟩
    rw [Method.compare, compareViews_eq_compareResolved, Context.forInstructions, if_pos hf]
  | false =>
    replace h : ctx.LabelConsistent methods := h.resolve_left (by simp [hf])
    obtain ⟨indices, hindices⟩ := h.exists_indices
    refine ⟨{ ctx with indices }, fun m hm n hn => ?_⟩
    have hactual : Context.Matches { ctx with indices }
        (ctx.forInstructions (ctx.view m).instructions (ctx.view n).instructions) id
        (ctx.view m).labels := by
      refine ⟨Context.forInstructions_options, fun l hl => ?_⟩
      refine (Context.forInstructions_indices_actual hf fun hp => ?_).trans
        (hindices m hm l hl).symm
      exact h m hm n hn l hl (mem_labels_of_placed hp)
    have hexpected : Context.Matches { ctx with indices }
        (ctx.forInstructions (ctx.view m).instructions (ctx.view n).instructions) id
        (ctx.view n).labels := by
      refine ⟨Context.forInstructions_options, fun l hl => ?_⟩
      refine (Context.forInstructions_indices_expected hf fun hp => ?_).trans
        (hindices n hn l hl).symm
      exact h m hm n hn l (mem_labels_of_placed hp) hl
    rw [Method.compare, compareViews_eq_compareResolved, compareResolved,
      compareBodies_congr hactual hexpected]
    rfl

/-- Methods of a consistent family are equal out of order exactly if they pair up. -/
theorem compareUnordered_eq_eq {ms ns : List Method}
    (h : ctx.fixed = true ∨ ctx.LabelConsistent {m | m ∈ ms ++ ns}) :
    compareUnordered (Method.compare ctx) ms ns = .eq ↔
      PairUp (fun m n => m.compare ctx n = .eq) ms ns := by
  obtain ⟨body, hbody⟩ := exists_resolved h
  have := transCmp_on ctx.view (compareResolved ctx body)
  have heq (m : Method) (hm : m ∈ ms) (n : Method) (hn : n ∈ ns) :
      m.compare ctx n = compareResolved ctx body (ctx.view m) (ctx.view n) :=
    hbody m (List.mem_append_left ns hm) n (List.mem_append_right ms hn)
  rw [compareUnordered_congr hbody, ClassMatch.compareUnordered_eq_eq]
  constructor
  · exact pairUp_imp fun m hm n hn h => (heq m hm n hn).trans h
  · exact pairUp_imp fun m hm n hn h => (heq m hm n hn).symm.trans h

end Method

end ClassMatch
