import ClassMatch.Label.Numbering
import ClassMatch.Proofs.Label.Resolution

/-!
Ordinals of labels. They tell apart the labels that a list places, and when labels are replaced one
to one the new ones have the ordinals of the old ones.
-/
namespace ClassMatch

variable {instructions : List Instruction} {labels : List Label} {f : Label → Label} {l m : Label}

theorem ordinals_injective (hl : l ∈ placedLabels instructions)
    (h : ordinals instructions l = ordinals instructions m) : l = m := by
  obtain ⟨i, hi⟩ := Option.ne_none_iff_exists'.mp (mt ordinals_eq_none.mp (not_not_intro hl))
  obtain ⟨_, hli, -⟩ := List.idxOf?_eq_some_iff.mp hi
  obtain ⟨_, hmi, -⟩ := List.idxOf?_eq_some_iff.mp (h.symm.trans hi)
  exact hli.symm.trans hmi

theorem placedLabels_relabel :
    placedLabels (instructions.map (Instruction.relabel f)) =
      (placedLabels instructions).map f := by
  rw [placedLabels, placedLabels, List.filterMap_map, List.map_filterMap]
  exact List.filterMap_congr fun i _ => Instruction.placed?_relabel f i

theorem ordinals_relabel (hf : Set.InjOn f {l | l ∈ labels})
    (hp : ∀ l ∈ placedLabels instructions, l ∈ labels) (hl : l ∈ labels) :
    ordinals (instructions.map (Instruction.relabel f)) (f l) = ordinals instructions l := by
  have key (placed : List Label) (hp : ∀ m ∈ placed, m ∈ labels) :
      (placed.map f).idxOf? (f l) = placed.idxOf? l := by
    induction placed with
    | nil => rfl
    | cons m placed ih =>
      have hm : f m = f l ↔ m = l := hf.eq_iff (hp m (by simp)) hl
      simp only [List.map_cons, List.idxOf?_cons, beq_iff_eq, hm,
        ih fun m' hm' => hp m' (by simp [hm'])]
  rw [ordinals, ordinals, placedLabels_relabel, key _ hp]

namespace Context

variable {ctx : Context}

/-- Labels and the fresh ones that replace them have the same indices, if the surroundings know
none of them. -/
theorem matches_relabel (hfixed : ctx.fixed = false) (hnone : ∀ l, ctx.indices l = none)
    (hp : ∀ l ∈ placedLabels instructions, l ∈ labels) (hf : Set.InjOn f {l | l ∈ labels})
    (hfresh : ∀ l ∈ labels, f l ∉ labels) :
    let body := ctx.forInstructions instructions (instructions.map (Instruction.relabel f))
    Matches { ctx with indices := ordinals instructions } body id labels ∧
      Matches { ctx with indices := ordinals instructions } body f labels := by
  refine ⟨⟨forInstructions_options, fun l hl => ?_⟩, ⟨forInstructions_options, fun l hl => ?_⟩⟩
  · have hl' : l ∉ placedLabels (instructions.map (Instruction.relabel f)) := by
      rw [placedLabels_relabel, List.mem_map]
      rintro ⟨m, hm, rfl⟩
      exact hfresh m (hp m hm) hl
    rw [forInstructions_indices hfixed, hnone, id, ordinals_eq_none.mpr hl']
    simp
  · have hl' : f l ∉ placedLabels instructions := fun h => hfresh l hl (hp (f l) h)
    rw [forInstructions_indices hfixed, hnone, ordinals_eq_none.mpr hl',
      ordinals_relabel hf hp hl]
    simp

end Context

end ClassMatch
