import ClassMatch.Proofs.Bare
import ClassMatch.Proofs.Label.Resolution

/-!
When the order of two methods turns round with them. Labels that both methods place are resolved
by the first one, so the two directions agree only if such labels have the same ordinal in both
methods; otherwise there are methods with these instructions for which they do not.
-/
namespace ClassMatch

open Std

/-- The labels that both lists place have the same ordinals in both. -/
def PlacedAlike (as bs : List Instruction) : Prop :=
  ∀ l ∈ placedLabels as, l ∈ placedLabels bs → ordinals as l = ordinals bs l

instance (as bs : List Instruction) : Decidable (PlacedAlike as bs) :=
  inferInstanceAs (Decidable (∀ l ∈ placedLabels as, l ∈ placedLabels bs →
    ordinals as l = ordinals bs l))

theorem pairedOrdinals_comm {as bs : List Instruction} (h : PlacedAlike as bs) :
    pairedOrdinals bs as = pairedOrdinals as bs := by
  funext l
  rw [pairedOrdinals_apply, pairedOrdinals_apply]
  by_cases ha : l ∈ placedLabels as
  · by_cases hb : l ∈ placedLabels bs
    · rw [h l ha hb]
    · rw [ordinals_eq_none.mpr hb, Option.none_or, Option.or_none]
  · rw [ordinals_eq_none.mpr ha, Option.none_or, Option.or_none]

theorem Context.forInstructions_comm {ctx : Context} {as bs : List Instruction}
    (h : ctx.fixed = true ∨ PlacedAlike as bs) :
    ctx.forInstructions bs as = ctx.forInstructions as bs := by
  unfold forInstructions
  cases hf : ctx.fixed with
  | true => rfl
  | false =>
    rw [find_pairedMap_add, find_pairedMap_add, pairedOrdinals_comm (h.resolve_left (by simp [hf]))]

namespace Method

theorem compare_swap_iff {ctx : Context} {m n : Method} :
    n.compare ctx m = (m.compare ctx n).swap ↔
      compareResolved ctx (ctx.forInstructions (ctx.view m).instructions (ctx.view n).instructions)
          (ctx.view m) (ctx.view n) =
        compareResolved ctx
          (ctx.forInstructions (ctx.view n).instructions (ctx.view m).instructions)
          (ctx.view m) (ctx.view n) := by
  have hswap (body : Context) : compareResolved ctx body (ctx.view n) (ctx.view m) =
      (compareResolved ctx body (ctx.view m) (ctx.view n)).swap := OrientedCmp.eq_swap
  rw [Method.compare, Method.compare, compareViews_eq_compareResolved,
    compareViews_eq_compareResolved, hswap, Ordering.swap_inj]
  exact eq_comm

theorem compare_swap {ctx : Context} {m n : Method}
    (h : ctx.fixed = true ∨ PlacedAlike (ctx.view m).instructions (ctx.view n).instructions) :
    n.compare ctx m = (m.compare ctx n).swap := by
  rw [compare_swap_iff, Context.forInstructions_comm h]

/-- A method whose body marks a label by a block of exceptions. -/
def marking (instructions : List Instruction) (l : Label) : Method :=
  { bare "" "" instructions with tryCatchBlocks := [.bare l] }

end Method

/-- A context in which blocks count and instructions do not. -/
def Context.forBlocks (indices : LabelIndices) : Context :=
  { plain with options := .ofList [.ignoreInstructions], indices }

namespace Method

theorem compare_marking_eq_eq {indices : LabelIndices} {as bs : List Instruction} {l m : Label} :
    (marking as l).compare (.forBlocks indices) (marking bs m) = .eq ↔
      (pairedOrdinals as bs l).or (indices l) = (pairedOrdinals as bs m).or (indices m) := by
  have hview (m : Method) : (Context.forBlocks indices).view m = m := rfl
  have hheaders : compareHeaders (.forBlocks indices) (marking as l) (marking bs m) = .eq := by
    change compareHeaders (.forBlocks indices) (marking as l) (marking as l) = .eq
    exact ReflCmp.compare_self
  have hlist : (OptionSet.ofList [.ignoreInstructions]).toList = [.ignoreInstructions] := rfl
  have hbodies (ctx : Context) (ho : ctx.options = .ofList [.ignoreInstructions]) :
      compareBodies ctx (marking as l) (marking bs m) = .eq ↔ l.compare ctx m = .eq := by
    have hranges : ctx.forRanges = ctx := by
      simp [Context.forRanges, Context.has, OptionSet.contains, ho, hlist]
    simp [compareBodies, marking, bare, Context.has, OptionSet.contains, ho, hlist, hranges,
      compareOptional, compareUnordered, sortBy, sortDescending, insertDescending, compareElements,
      TryCatchBlock.compare, TryCatchBlock.bare]
  have hdefault : compareOptional (ElementValue.compare (.forBlocks indices))
      (marking as l).annotationDefault (marking bs m).annotationDefault = .eq := rfl
  rw [Method.compare, hview, hview, compareViews, hheaders, hdefault, Ordering.then_eq_eq,
    Ordering.then_eq_eq, hbodies _ rfl, Label.compare, LawfulEqCmp.compare_eq_iff_eq]
  simp [Context.forInstructions, find_pairedMap_add, Context.forBlocks, Context.plain, marking,
    bare]

theorem exists_fresh (labels : List Label) : ∃ l, l ∉ labels := by
  obtain ⟨k, hk⟩ := Infinite.exists_notMem_finset (labels.map Label.id).toFinset
  refine ⟨⟨k⟩, fun h => hk ?_⟩
  simpa using ⟨⟨k⟩, h, rfl⟩

/-- A label in different places makes methods with these instructions equal one way round only. -/
theorem exists_compare_swap_ne {as bs : List Instruction} (h : ¬ PlacedAlike as bs) :
    ∃ (ctx : Context) (m n : Method), ctx.fixed = false ∧ (ctx.view m).instructions = as ∧
      (ctx.view n).instructions = bs ∧ n.compare ctx m ≠ (m.compare ctx n).swap := by
  unfold PlacedAlike at h
  push Not at h
  obtain ⟨l, ha, hb, hne⟩ := h
  obtain ⟨i, hi⟩ := Option.ne_none_iff_exists'.mp (mt ordinals_eq_none.mp (not_not_intro ha))
  obtain ⟨j, hj⟩ := Option.ne_none_iff_exists'.mp (mt ordinals_eq_none.mp (not_not_intro hb))
  -- The other label is placed nowhere and is known by the ordinal that `l` has in the first list.
  obtain ⟨x, hx⟩ := exists_fresh (placedLabels as ++ placedLabels bs)
  rw [List.mem_append, not_or] at hx
  have hxa : ordinals as x = none := ordinals_eq_none.mpr hx.1
  have hxb : ordinals bs x = none := ordinals_eq_none.mpr hx.2
  have hforth : (marking as l).compare (.forBlocks fun _ => some i) (marking bs x) = .eq := by
    rw [compare_marking_eq_eq]
    simp [pairedOrdinals_apply, hxa, hxb, hi]
  have hback : (marking bs x).compare (.forBlocks fun _ => some i) (marking as l) ≠ .eq := by
    rw [Ne, compare_marking_eq_eq]
    simp only [pairedOrdinals_apply, hxa, hxb, hi, hj, Option.some_or, Option.none_or,
      Option.some.injEq]
    intro hij
    exact hne (by rw [hi, hj, hij])
  refine ⟨.forBlocks fun _ => some i, marking as l, marking bs x, rfl, rfl, rfl, ?_⟩
  rw [hforth]
  exact hback

/-- The order turns round with the methods exactly if it is the same whichever of them resolves
the labels first. It does if the context has fixed the indices or the labels are placed alike; if
they are not, it does not for some methods with these instructions. -/
theorem compare_swap_iff_placedAlike (ctx : Context) (m n : Method) :
    (n.compare ctx m = (m.compare ctx n).swap ↔
      compareResolved ctx (ctx.forInstructions (ctx.view m).instructions (ctx.view n).instructions)
          (ctx.view m) (ctx.view n) =
        compareResolved ctx
          (ctx.forInstructions (ctx.view n).instructions (ctx.view m).instructions)
          (ctx.view m) (ctx.view n)) ∧
    (ctx.fixed = true ∨ PlacedAlike (ctx.view m).instructions (ctx.view n).instructions →
      n.compare ctx m = (m.compare ctx n).swap) ∧
    (¬ PlacedAlike (ctx.view m).instructions (ctx.view n).instructions →
      ∃ (ctx' : Context) (m' n' : Method), ctx'.fixed = false ∧
        (ctx'.view m').instructions = (ctx.view m).instructions ∧
        (ctx'.view n').instructions = (ctx.view n).instructions ∧
        n'.compare ctx' m' ≠ (m'.compare ctx' n').swap) :=
  ⟨compare_swap_iff, compare_swap, exists_compare_swap_ne⟩

/-- Methods may share a label that both of them place first. -/
theorem compare_swap_of_shared_label :
    (bare "m" "()V" [.label ⟨0⟩, .label ⟨1⟩]).compare .plain
        (bare "m" "()V" [.label ⟨0⟩, .jump 167 ⟨0⟩]) =
      ((bare "m" "()V" [.label ⟨0⟩, .jump 167 ⟨0⟩]).compare .plain
        (bare "m" "()V" [.label ⟨0⟩, .label ⟨1⟩])).swap :=
  (compare_swap_iff_placedAlike .plain _ _).2.1 (.inr (by decide))

/-- Two labels that trade places leave each of two methods before the other. -/
theorem compare_swap_fails :
    ¬ ∀ (ctx : Context) (a b : Method), b.compare ctx a = (a.compare ctx b).swap := by
  intro h
  have hab := h .plain (bare "m" "()V" [.label ⟨0⟩, .label ⟨1⟩])
    (bare "m" "()V" [.label ⟨1⟩, .label ⟨0⟩])
  revert hab
  decide

end Method

end ClassMatch
