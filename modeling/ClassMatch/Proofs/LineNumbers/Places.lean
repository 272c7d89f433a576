import ClassMatch.Proofs.Alike.Method
import ClassMatch.Proofs.LineNumbers.Tables
import ClassMatch.Proofs.Options.Added

/-!
Places of labels before and after the line numbers go. Bodies that are equal in full refer to labels
in the same places, so the same places stay, and labels that had the same place have so still.
-/
namespace ClassMatch

open Std

variable {ctx : Context} {same : Label → Label → Prop}

theorem Instruction.Alike.placed? {i j : Instruction} (h : i.Alike same j) :
    Option.Rel same i.placed? j.placed? := by
  cases h with
  | @refl i hnone =>
    have hplaced : i.placed? = none := by
      cases i with
      | label => simp [Instruction.labels] at hnone
      | _ => rfl
    rw [hplaced]
    exact .none
  | label h => exact .some h
  | _ => exact .none

theorem Instruction.Alike.isNone_placed? {i j : Instruction} (h : i.Alike same j) :
    i.placed?.isNone = j.placed?.isNone := by
  cases h <;> rfl

theorem Instruction.Alike.isLineNumber_eq {i j : Instruction} (h : i.Alike same j) :
    i.isLineNumber = j.isLineNumber := by
  cases h <;> rfl

/-- Whether an instruction stays depends on nothing but the label that it places. -/
theorem Instruction.Alike.isKept_eq {i j : Instruction} {anchors anchors' : List Label}
    (h : i.Alike same j) (hkept : ∀ l ∈ i.placed?, ∀ m ∈ j.placed?, same l m →
      (l ∈ anchors ↔ m ∈ anchors')) : i.isKept anchors = j.isKept anchors' := by
  cases h with
  | @refl i hnone =>
    refine isKept_congr fun l hl => ?_
    cases i with
    | label => simp [Instruction.labels] at hnone
    | _ => cases hl
  | label h =>
    rw [Bool.eq_iff_iff, isKept_label, isKept_label]
    exact hkept _ rfl _ rfl h
  | _ => rfl

theorem forall₂_placedLabels {as bs : List Instruction}
    (h : List.Forall₂ (Instruction.Alike same) as bs) :
    List.Forall₂ same (placedLabels as) (placedLabels bs) :=
  List.rel_filterMap (fun _ _ h => Instruction.Alike.placed? h) h

theorem forall₂_instructionAnchors {as bs : List Instruction}
    (h : List.Forall₂ (Instruction.Alike same) as bs) :
    List.Forall₂ same (instructionAnchors as) (instructionAnchors bs) := by
  refine List.rel_flatMap (List.rel_filter (fun i j hij => ?_) h) fun i j hij => hij.labels
  simp only [hij.isNone_placed?, hij.isLineNumber_eq]

theorem idxOf?_eq_of_forall₂ {α β : Type} [DecidableEq α] [DecidableEq β] {r : α → β → Prop}
    {as : List α} {bs : List β} {a : α} {b : β} (h : List.Forall₂ r as bs)
    (hab : ∀ a' ∈ as, ∀ b' ∈ bs, r a' b' → (a' = a ↔ b' = b)) : as.idxOf? a = bs.idxOf? b := by
  induction h with
  | nil => rfl
  | @cons a' b' as bs hr h ih =>
    have hhead : a' = a ↔ b' = b := hab a' (by simp) b' (by simp) hr
    have htail := ih fun a'' ha b'' hb => hab a'' (by simp [ha]) b'' (by simp [hb])
    simp only [List.idxOf?_cons, beq_iff_eq, hhead, htail]

theorem TryCatchBlock.forall₂_labels {s t : TryCatchBlock} (h : s.compare ctx t = .eq) :
    List.Forall₂ ctx.SameIndex s.labels t.labels := by
  simp only [TryCatchBlock.compare, Ordering.then_eq_eq, Label.compare_eq_eq] at h
  obtain ⟨hstart, hstop, hhandler, -⟩ := h
  exact .cons hstart (.cons hstop (.cons hhandler .nil))

theorem LocalVariable.forall₂_labels {v w : LocalVariable} (h : v.compare ctx w = .eq) :
    List.Forall₂ ctx.SameIndex v.labels w.labels := by
  obtain ⟨-, -, -, hstart, hstop, -⟩ := LocalVariable.compare_eq_eq.mp h
  exact .cons hstart (.cons hstop .nil)

theorem LocalVariableAnnotationUse.forall₂_labels {u w : LocalVariableAnnotationUse}
    (h : u.compare ctx w = .eq) : List.Forall₂ ctx.SameIndex u.labels w.labels := by
  simp only [LocalVariableAnnotationUse.compare, Ordering.then_eq_eq, compareLabels_eq_eq] at h
  obtain ⟨-, hstarts, hends, -⟩ := h
  exact List.rel_append hstarts hends

theorem pairUp_flatMap_getD {α : Type} {cmp : α → α → Ordering} {labels : α → List Label}
    {o p : Option (List α)} (h : compareOptional (compareUnordered cmp) o p = .eq)
    (hlabels : ∀ a b, cmp a b = .eq → List.Forall₂ same (labels a) (labels b)) :
    PairUp same ((o.getD []).flatMap labels) ((p.getD []).flatMap labels) := by
  rw [compareOptional_eq_eq] at h
  exact pairUp_flatMap hlabels (pairUp_of_compareUnordered (optionRel_getD h rfl))

/-- Nothing that belongs to a body is left out, line numbers included. -/
structure Context.ComparesWholeBodies (ctx : Context) : Prop where
  lineNumbers : ctx.has .ignoreLineNumbers = false
  instructions : ctx.has .ignoreInstructions = false
  tryCatchBlocks : ctx.has .ignoreTryCatchBlocks = false
  localVariables : ctx.has .ignoreLocalVariables = false
  visibleAnnotations : ctx.has .ignoreVisibleLocalVariableAnnotations = false
  invisibleAnnotations : ctx.has .ignoreInvisibleLocalVariableAnnotations = false

theorem Context.ComparesWholeBodies.forInstructions (h : ctx.ComparesWholeBodies)
    (as bs : List Instruction) : (ctx.forInstructions as bs).ComparesWholeBodies := by
  obtain ⟨hline, hi, ht, hv, hva, hia⟩ := h
  constructor <;> rwa [has_forInstructions]

namespace Method

variable {a b : Method} {l m : Label}

/-- The labels have the same ordinal in the methods, each in its own, or none. -/
def SamePlace (a b : Method) (l m : Label) : Prop :=
  ordinals a.instructions l = ordinals b.instructions m

theorem sameIndex_iff_samePlace (hfixed : ctx.fixed = false) (hnone : ∀ l, ctx.indices l = none)
    (hab : ∀ l ∈ a.labels, l ∉ b.labels) (hl : l ∈ a.labels) (hm : m ∈ b.labels) :
    (ctx.forInstructions a.instructions b.instructions).SameIndex l m ↔ a.SamePlace b l m := by
  rw [sameIndex_iff_place hfixed (fun l hl hl' => absurd hl' (hab l hl)) hl hm, place, place,
    hnone, hnone, Option.or_none, Option.or_none, SamePlace]

/-- What two bodies that are equal in full have in common. -/
structure BodiesAgree (same : Label → Label → Prop) (a b : Method) : Prop where
  instructions : List.Forall₂ (Instruction.Alike same) a.instructions b.instructions
  anchors : PairUp same a.anchors b.anchors

theorem bodiesAgree_of_compareBodies (hctx : ctx.ComparesWholeBodies)
    (h : compareBodies ctx a b = .eq) : BodiesAgree ctx.SameIndex a b := by
  have hranges : ctx.forRanges = ctx := by
    rw [Context.forRanges, hctx.lineNumbers]
    rfl
  simp only [compareBodies, hranges, Ordering.then_eq_eq, unless_eq_eq, hctx.instructions,
    hctx.tryCatchBlocks, hctx.localVariables, hctx.visibleAnnotations, hctx.invisibleAnnotations,
    Bool.false_eq_true, false_or] at h
  obtain ⟨hinstructions, hblocks, -, -, hvariables, hvisible, hinvisible⟩ := h
  have halike : List.Forall₂ (Instruction.Alike ctx.SameIndex) a.instructions b.instructions :=
    (compareLists_eq_eq.mp hinstructions).imp fun _ _ => Instruction.compare_eq_eq.mp
  have hblocks' : PairUp ctx.SameIndex (a.tryCatchBlocks.flatMap TryCatchBlock.labels)
      (b.tryCatchBlocks.flatMap TryCatchBlock.labels) :=
    pairUp_flatMap (fun _ _ => TryCatchBlock.forall₂_labels) (pairUp_of_compareUnordered hblocks)
  refine ⟨halike, ?_⟩
  rw [Method.anchors, Method.anchors]
  refine pairUp_append (pairUp_append (pairUp_append (pairUp_append ?_ hblocks') ?_) ?_) ?_
  · exact pairUp_of_forall₂ (forall₂_instructionAnchors halike)
  · exact pairUp_flatMap_getD hvariables fun _ _ => LocalVariable.forall₂_labels
  · exact pairUp_flatMap_getD hvisible fun _ _ => LocalVariableAnnotationUse.forall₂_labels
  · exact pairUp_flatMap_getD hinvisible fun _ _ => LocalVariableAnnotationUse.forall₂_labels

theorem BodiesAgree.imp {same' : Label → Label → Prop}
    (h : ∀ l ∈ a.labels, ∀ m ∈ b.labels, same l m → same' l m) (hab : BodiesAgree same a b) :
    BodiesAgree same' a b where
  instructions := forall₂_imp_of_mem (fun _ hi _ hj => Instruction.Alike.imp fun l hl m hm =>
    h l (mem_labels_of_instruction hi hl) m (mem_labels_of_instruction hj hm)) hab.instructions
  anchors := pairUp_imp (fun l hl m hm =>
    h l (List.mem_append_right _ hl) m (List.mem_append_right _ hm)) hab.anchors

/-- Of two labels placed in the same place, both are referred to or none is. -/
theorem BodiesAgree.mem_anchors_iff (hab : BodiesAgree (a.SamePlace b) a b)
    (hl : l ∈ placedLabels a.instructions) (hm : m ∈ placedLabels b.instructions)
    (hlm : a.SamePlace b l m) : l ∈ a.anchors ↔ m ∈ b.anchors := by
  obtain ⟨hleft, hright⟩ := exists_mem_of_pairUp hab.anchors
  constructor
  · intro h
    obtain ⟨m', hm', hlm'⟩ := hleft l h
    have heq : m = m' := ordinals_injective hm (hlm.symm.trans hlm')
    rwa [heq]
  · intro h
    obtain ⟨l', hl', hlm'⟩ := hright m h
    have heq : l = l' := ordinals_injective hl (hlm.trans hlm'.symm)
    rwa [heq]

theorem BodiesAgree.withoutLineNumbers (hab : BodiesAgree (a.SamePlace b) a b) :
    BodiesAgree (a.SamePlace b) a.withoutLineNumbers b.withoutLineNumbers := by
  have hmem : List.Forall₂ (fun i j => i ∈ a.instructions ∧ j ∈ b.instructions ∧
      i.Alike (a.SamePlace b) j) a.instructions b.instructions :=
    forall₂_imp_of_mem (fun i hi j hj hij => ⟨hi, hj, hij⟩) hab.instructions
  have hkept : List.Forall₂ (fun i j => i ∈ a.instructions ∧ j ∈ b.instructions ∧
      i.Alike (a.SamePlace b) j) a.withoutLineNumbers.instructions
      b.withoutLineNumbers.instructions := by
    refine List.rel_filter (fun i j ⟨hi, hj, hij⟩ => ?_) hmem
    have heq := hij.isKept_eq fun l hl m hm => hab.mem_anchors_iff
      (List.mem_filterMap.mpr ⟨i, hi, hl⟩) (List.mem_filterMap.mpr ⟨j, hj, hm⟩)
    simp only [heq]
  refine ⟨hkept.imp fun i j hij => hij.2.2, ?_⟩
  rw [anchors_withoutLineNumbers, anchors_withoutLineNumbers]
  exact hab.anchors

/-- Labels that had the same place have so still when the line numbers are gone. -/
theorem BodiesAgree.samePlace_withoutLineNumbers (hab : BodiesAgree (a.SamePlace b) a b)
    (hlm : a.SamePlace b l m) : a.withoutLineNumbers.SamePlace b.withoutLineNumbers l m := by
  refine idxOf?_eq_of_forall₂ (forall₂_placedLabels hab.withoutLineNumbers.instructions)
    fun l' hl' m' hm' hlm' => ?_
  have hplaced (c : Method) {l : Label} (h : l ∈ placedLabels c.withoutLineNumbers.instructions) :
      l ∈ placedLabels c.instructions :=
    mem_placedLabels.mpr (List.mem_of_mem_filter (mem_placedLabels.mp h))
  constructor
  · rintro rfl
    exact ordinals_injective (hplaced b hm') (hlm'.symm.trans hlm)
  · rintro rfl
    exact ordinals_injective (hplaced a hl') (hlm'.trans hlm.symm)

/-- Under the old indices, what is left of equal bodies is equal. -/
theorem compareBodies_withoutLineNumbers (h : compareBodies ctx a b = .eq)
    (hleft : List.Forall₂ (Instruction.Alike ctx.SameIndex) a.withoutLineNumbers.instructions
      b.withoutLineNumbers.instructions) :
    compareBodies ctx a.withoutLineNumbers b.withoutLineNumbers = .eq := by
  have hinstructions : compareLists (Instruction.compare ctx) a.withoutLineNumbers.instructions
      b.withoutLineNumbers.instructions = .eq :=
    compareLists_eq_eq.mpr (hleft.imp fun _ _ => Instruction.compare_eq_eq.mpr)
  rw [compareBodies, Ordering.then_eq_eq] at h
  rw [compareBodies, hinstructions, Ordering.then_eq_eq]
  exact ⟨unless_eq_eq.mpr (.inr rfl), h.2⟩

/-- The context for what is left of two bodies takes labels for the same that were so before. -/
theorem BodiesAgree.coarsens (hfixed : ctx.fixed = false) (hnone : ∀ l, ctx.indices l = none)
    (hab : ∀ l ∈ a.labels, l ∉ b.labels) (h : BodiesAgree (a.SamePlace b) a b) :
    (ctx.forInstructions a.instructions b.instructions).Coarsens
      ((ctx.adding .ignoreLineNumbers).forInstructions a.withoutLineNumbers.instructions
        b.withoutLineNumbers.instructions)
      a.withoutLineNumbers.labels b.withoutLineNumbers.labels := by
  refine ⟨fun o ho => ?_, fun l hl m hm hlm => ?_⟩
  · rw [Context.has_forInstructions] at ho ⊢
    exact Context.has_adding_of_has ho
  · have hplace : a.SamePlace b l m := (sameIndex_iff_samePlace hfixed hnone hab
      (mem_labels_of_withoutLineNumbers hl) (mem_labels_of_withoutLineNumbers hm)).mp hlm
    have hfixed' : (ctx.adding .ignoreLineNumbers).fixed = false := hfixed
    have hab' (l : Label) (hl : l ∈ a.withoutLineNumbers.labels) :
        l ∉ b.withoutLineNumbers.labels := fun hl' =>
      hab l (mem_labels_of_withoutLineNumbers hl) (mem_labels_of_withoutLineNumbers hl')
    exact (sameIndex_iff_samePlace hfixed' hnone hab' hl hm).mpr
      (h.samePlace_withoutLineNumbers hplace)

theorem compare_adding_ignoreLineNumbers (hfixed : ctx.fixed = false)
    (hnone : ∀ l, ctx.indices l = none) (hctx : ctx.ComparesWholeBodies)
    (hab : ∀ l ∈ a.labels, l ∉ b.labels) (h : a.compare ctx b = .eq) :
    a.compare (ctx.adding .ignoreLineNumbers) b = .eq := by
  have hoptions := (ctx.coarsens_adding .ignoreLineNumbers [] []).options
  have hview := Context.view_eq_withoutLineNumbers
    (show (ctx.adding .ignoreLineNumbers).has .ignoreLineNumbers = true by
      simp [Context.has_adding])
  rw [Method.compare, Context.view_eq_self hctx.lineNumbers, Context.view_eq_self hctx.lineNumbers,
    compareViews, Ordering.then_eq_eq, Ordering.then_eq_eq] at h
  obtain ⟨hheaders, hbodies, hdefault⟩ := h
  have hplaces : BodiesAgree (a.SamePlace b) a b :=
    (bodiesAgree_of_compareBodies (hctx.forInstructions _ _) hbodies).imp
      fun l hl m hm => (sameIndex_iff_samePlace hfixed hnone hab hl hm).mp
  -- What stays is equal under the indices from before, and so under those that it has by itself.
  have hindices := hplaces.withoutLineNumbers.imp fun l hl m hm =>
    (sameIndex_iff_samePlace hfixed hnone hab (mem_labels_of_withoutLineNumbers hl)
      (mem_labels_of_withoutLineNumbers hm)).mpr
  have hleft := compareBodies_withoutLineNumbers hbodies hindices.instructions
  rw [Method.compare, hview, hview, compareViews, Ordering.then_eq_eq, Ordering.then_eq_eq]
  exact ⟨compareHeaders_mono hoptions hheaders,
    compareBodies_mono (hplaces.coarsens hfixed hnone hab) hleft,
    unless_mono (hoptions _) (compareOptionalValues_mono hoptions) hdefault⟩

/-- Methods without a common label that pass when their whole bodies are checked still do when line
numbers are ignored. -/
theorem passes_check_without_lineNumbers (hfixed : ctx.fixed = false)
    (hnone : ∀ l, ctx.indices l = none) (hctx : ctx.ComparesWholeBodies)
    (hab : ∀ l ∈ a.labels, l ∉ b.labels) {trail : Trail}
    (h : ((a.check ctx b).run trail).passes = true) :
    ((a.check (ctx.adding .ignoreLineNumbers) b).run trail).passes = true := by
  rw [passes_check] at h ⊢
  exact compare_adding_ignoreLineNumbers hfixed hnone hctx hab h

/-- With the line number its label goes, while those that a block and a jump need stay. -/
theorem passes_check_without_lineNumbers_of_loop :
    ((check (Context.plain.adding .ignoreLineNumbers)
      { bare "m" "()V" [.label ⟨0⟩, .lineNumber 3 ⟨0⟩, .label ⟨1⟩, .label ⟨2⟩, .jump 167 ⟨1⟩] with
        tryCatchBlocks := [.bare ⟨2⟩] }
      { bare "m" "()V" [.label ⟨5⟩, .lineNumber 3 ⟨5⟩, .label ⟨6⟩, .label ⟨7⟩, .jump 167 ⟨6⟩] with
        tryCatchBlocks := [.bare ⟨7⟩] }).run .empty).passes = true :=
  passes_check_without_lineNumbers rfl (fun _ => rfl) ⟨rfl, rfl, rfl, rfl, rfl, rfl⟩ (by decide)
    (by decide +kernel)

end Method

end ClassMatch
