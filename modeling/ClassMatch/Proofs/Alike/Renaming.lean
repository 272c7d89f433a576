import ClassMatch.Proofs.Alike.Code
import ClassMatch.Proofs.Check.Assertion
import ClassMatch.Proofs.Label.Ordinals

/-!
Instruction lists that are equal up to a renaming of their labels. No renaming is ever built: the
labels of each list are numbered, and it is the same numbers in the same places that give one.
-/
namespace ClassMatch

open Std

variable {as bs : List Instruction}

theorem forall₂_labels {same : Label → Label → Prop}
    (h : List.Forall₂ (Instruction.Alike same) as bs) :
    List.Forall₂ same (as.flatMap Instruction.labels) (bs.flatMap Instruction.labels) :=
  List.rel_flatMap h fun _ _ => Instruction.Alike.labels

theorem forall₂_alike_imp {same same' : Label → Label → Prop}
    (h : ∀ l ∈ as.flatMap Instruction.labels, ∀ m ∈ bs.flatMap Instruction.labels,
      same l m → same' l m)
    (hab : List.Forall₂ (Instruction.Alike same) as bs) :
    List.Forall₂ (Instruction.Alike same') as bs := by
  refine forall₂_imp_of_mem (fun i hi j hj => Instruction.Alike.imp fun l hl m hm => ?_) hab
  exact h l (List.mem_flatMap.mpr ⟨i, hi, hl⟩) m (List.mem_flatMap.mpr ⟨j, hj, hm⟩)

/-- A list whose labels are all placed turns into one that has the same ordinals in the same places
by renaming its labels. -/
theorem exists_renaming (ha : ∀ l ∈ as.flatMap Instruction.labels, l ∈ placedLabels as)
    (hb : ∀ l ∈ bs.flatMap Instruction.labels, l ∈ placedLabels bs)
    (h : List.Forall₂ (Instruction.Alike fun l m => ordinals as l = ordinals bs m) as bs) :
    ∃ f, Set.InjOn f {l | l ∈ as.flatMap Instruction.labels} ∧
      as.map (Instruction.relabel f) = bs := by
  have hexists (l : Label) (hl : l ∈ as.flatMap Instruction.labels) :
      ∃ m, ordinals as l = ordinals bs m := by
    obtain ⟨m, -, hm⟩ := exists_mem_of_forall₂ (forall₂_labels h) hl
    exact ⟨m, hm⟩
  -- There is no choice where labels are placed: the ordinal tells which label it is.
  choose! f hf using hexists
  refine ⟨f, fun l hl m hm hlm => ?_, ?_⟩
  · refine ordinals_injective (ha l hl) ?_
    rw [hf l hl, hlm, hf m hm]
  · refine map_eq_iff_forall₂.mpr ((forall₂_alike_imp (fun l hl m hm hlm => ?_) h).imp
      fun i j => Instruction.relabel_eq_of_alike)
    exact (ordinals_injective (hb m hm) (hlm.symm.trans (hf l hl))).symm

/-- A list is equal to what it becomes when its labels are renamed to fresh ones. -/
theorem compareLists_relabel {ctx : Context} {f : Label → Label} (hfixed : ctx.fixed = false)
    (hnone : ∀ l, ctx.indices l = none)
    (hf : Set.InjOn f {l | l ∈ as.flatMap Instruction.labels})
    (hfresh : ∀ l ∈ as.flatMap Instruction.labels, f l ∉ as.flatMap Instruction.labels) :
    compareLists (Instruction.compare
      (ctx.forInstructions as (as.map (Instruction.relabel f)))) as
        (as.map (Instruction.relabel f)) = .eq := by
  obtain ⟨hid, hmap⟩ := Context.matches_relabel hfixed hnone
    (fun l => mem_labels_of_mem_placedLabels) hf hfresh
  have hlabels (i : Instruction) (hi : i ∈ as) (l : Label) (hl : l ∈ i.labels) :
      l ∈ as.flatMap Instruction.labels := List.mem_flatMap.mpr ⟨i, hi, hl⟩
  have h := compareLists_map (@Instruction.compare_relabel _ _)
    (fun i hi => hid.subset (hlabels i hi)) fun i hi => hmap.subset (hlabels i hi)
  rw [Instruction.relabel_id, List.map_id] at h
  rw [h]
  exact ReflCmp.compare_self

/-- Lists without common labels, each of which places all its labels, are equal exactly if renaming
the labels of one of them, different labels differently, gives the other. -/
theorem passes_assertInstructions_iff_renamed {setup : Setup} (ho : setup.options = .empty)
    (hi : setup.indices = none) {as bs : List Instruction}
    (ha : ∀ l ∈ as.flatMap Instruction.labels, l ∈ placedLabels as)
    (hb : ∀ l ∈ bs.flatMap Instruction.labels, l ∈ placedLabels bs)
    (hab : ∀ l ∈ as.flatMap Instruction.labels, l ∉ bs.flatMap Instruction.labels) :
    (assertInstructions setup as bs).passes = true ↔
      ∃ f, Set.InjOn f {l | l ∈ as.flatMap Instruction.labels} ∧
        as.map (Instruction.relabel f) = bs := by
  have hfixed := Setup.context_fixed hi
  have hnone := Setup.context_indices hi
  rw [passes_assertInstructions ho]
  constructor
  · intro h
    rw [compareLists_eq_eq] at h
    refine exists_renaming ha hb (forall₂_alike_imp (fun l hl m hm hlm => ?_)
      (h.imp fun i j => Instruction.compare_eq_eq.mp))
    have hlb : l ∉ placedLabels bs := fun h => hab l hl (mem_labels_of_mem_placedLabels h)
    have hma : m ∉ placedLabels as := fun h => hab m (mem_labels_of_mem_placedLabels h) hm
    rw [Context.SameIndex, Context.forInstructions_indices hfixed,
      Context.forInstructions_indices hfixed, ordinals_eq_none.mpr hlb, ordinals_eq_none.mpr hma,
      hnone, hnone] at hlm
    simpa using hlm
  · rintro ⟨f, hf, rfl⟩
    refine compareLists_relabel hfixed hnone hf fun l hl hfl => hab (f l) hfl ?_
    rw [flatMap_labels_map (Instruction.labels_relabel f)]
    exact List.mem_map_of_mem hl

/-- A loop that places its label twice, and leaves for another one, is renamed to such a loop. -/
theorem passes_assertInstructions_of_loops :
    (assertInstructions .plain
      [.label ⟨0⟩, .label ⟨0⟩, .jump 153 ⟨1⟩, .jump 167 ⟨0⟩, .label ⟨1⟩]
      [.label ⟨5⟩, .label ⟨5⟩, .jump 153 ⟨6⟩, .jump 167 ⟨5⟩, .label ⟨6⟩]).passes = true :=
  (passes_assertInstructions_iff_renamed rfl rfl (by decide) (by decide) (by decide)).mpr
    ⟨fun l => ⟨l.id + 5⟩, fun ⟨_⟩ _ ⟨_⟩ _ h => by simpa using h, rfl⟩

end ClassMatch
