import ClassMatch.Order.Declaration
import ClassMatch.Proofs.Label.Relabelling
import ClassMatch.Proofs.Order.Related

/-!
The orders look at labels only through the context: relabelling leaves them unchanged as long as
the new labels have the indices of the old ones. The two sides of a comparison may be relabelled
independently of each other.
-/
namespace ClassMatch

/-- What the labels in the list are under the first context, their images are under the second. -/
structure Context.Matches (ctx ctx' : Context) (f : Label → Label) (labels : List Label) :
    Prop where
  options : ctx'.options = ctx.options
  indices : ∀ l ∈ labels, ctx'.indices (f l) = ctx.indices l

variable {ctx ctx' : Context} {f g : Label → Label}

namespace Context.Matches

theorem subset {labels labels' : List Label} (h : ctx.Matches ctx' f labels')
    (hs : ∀ l ∈ labels, l ∈ labels') : ctx.Matches ctx' f labels :=
  ⟨h.options, fun l hl => h.indices l (hs l hl)⟩

theorem has {labels : List Label} (h : ctx.Matches ctx' f labels) (option : CheckOption) :
    ctx'.has option = ctx.has option := by
  rw [Context.has, Context.has, h.options]

theorem unless_eq {labels : List Label} (h : ctx.Matches ctx' f labels) (option : CheckOption)
    (order : Ordering) : ctx'.unless option order = ctx.unless option order := by
  unfold Context.unless
  rw [h.has]

theorem forRanges {labels : List Label} (h : ctx.Matches ctx' f labels) :
    ctx.forRanges.Matches ctx'.forRanges f labels := by
  unfold Context.forRanges
  rw [h.has]
  cases ctx.has .ignoreLineNumbers with
  | true => exact ⟨h.options, fun _ _ => rfl⟩
  | false => exact h

end Context.Matches

theorem ElementValue.compare_congr (ho : ctx'.options = ctx.options) :
    ElementValue.compare ctx' = ElementValue.compare ctx := by
  funext a b
  unfold ElementValue.compare Context.has
  rw [ho]

theorem TypeAnnotationUse.compare_congr (ho : ctx'.options = ctx.options) :
    TypeAnnotationUse.compare ctx' = TypeAnnotationUse.compare ctx := by
  funext a b
  unfold TypeAnnotationUse.compare AnnotationUse.compare
  rw [ElementValue.compare_congr ho]

theorem Label.compare_relabel {l m : Label} (hl : ctx.Matches ctx' f [l])
    (hm : ctx.Matches ctx' g [m]) : (f l).compare ctx' (g m) = l.compare ctx m := by
  rw [Label.compare, Label.compare, hl.indices l (by simp), hm.indices m (by simp)]

theorem compareLabels_relabel {as bs : List Label} (ha : ctx.Matches ctx' f as)
    (hb : ctx.Matches ctx' g bs) :
    compareLists (Label.compare ctx') (as.map f) (bs.map g) =
      compareLists (Label.compare ctx) as bs :=
  compareLists_map (@Label.compare_relabel ctx ctx')
    (fun l hl => ha.subset (by simpa using hl)) fun m hm => hb.subset (by simpa using hm)

theorem FrameValue.compare_relabel {a b : FrameValue} (ha : ctx.Matches ctx' f a.label?.toList)
    (hb : ctx.Matches ctx' g b.label?.toList) :
    (a.relabel f).compare ctx' (b.relabel g) = a.compare ctx b := by
  cases a with
  | uninitialized l => cases b with
    | uninitialized m => exact Label.compare_relabel ha hb
    | _ => rfl
  | _ => cases b <;> rfl

theorem compareFrameValues_relabel {as bs : List FrameValue}
    (ha : ctx.Matches ctx' f (as.filterMap FrameValue.label?))
    (hb : ctx.Matches ctx' g (bs.filterMap FrameValue.label?)) :
    compareLists (FrameValue.compare ctx') (as.map (FrameValue.relabel f))
        (bs.map (FrameValue.relabel g)) =
      compareLists (FrameValue.compare ctx) as bs := by
  refine compareLists_map (@FrameValue.compare_relabel ctx ctx') (fun v hv => ?_) fun v hv => ?_
  · exact ha.subset fun l hl => List.mem_filterMap.mpr ⟨v, hv, by simpa using hl⟩
  · exact hb.subset fun l hl => List.mem_filterMap.mpr ⟨v, hv, by simpa using hl⟩

namespace Instruction

theorem compareOperands_relabel {a b : Instruction} (ha : ctx.Matches ctx' f a.labels)
    (hb : ctx.Matches ctx' g b.labels) :
    (a.relabel f).compareOperands ctx' (b.relabel g) = a.compareOperands ctx b := by
  cases a with
  | jump op l => cases b with
    | jump op' m => exact Label.compare_relabel ha hb
    | _ => rfl
  | label l => cases b with
    | label m => exact Label.compare_relabel ha hb
    | _ => rfl
  | lineNumber line l => cases b with
    | lineNumber line' m =>
      simp only [relabel, compareOperands, Label.compare_relabel ha hb]
    | _ => rfl
  | tableSwitch min max l ls => cases b with
    | tableSwitch min' max' m ms =>
      have hl : ctx.Matches ctx' f [l] := ha.subset (by simp [labels])
      have hm : ctx.Matches ctx' g [m] := hb.subset (by simp [labels])
      have hls : ctx.Matches ctx' f ls := ha.subset (by simp +contextual [labels])
      have hms : ctx.Matches ctx' g ms := hb.subset (by simp +contextual [labels])
      simp only [relabel, compareOperands, Label.compare_relabel hl hm,
        compareLabels_relabel hls hms]
    | _ => rfl
  | lookupSwitch l keys ls => cases b with
    | lookupSwitch m keys' ms =>
      have hl : ctx.Matches ctx' f [l] := ha.subset (by simp [labels])
      have hm : ctx.Matches ctx' g [m] := hb.subset (by simp [labels])
      have hls : ctx.Matches ctx' f ls := ha.subset (by simp +contextual [labels])
      have hms : ctx.Matches ctx' g ms := hb.subset (by simp +contextual [labels])
      simp only [relabel, compareOperands, Label.compare_relabel hl hm,
        compareLabels_relabel hls hms]
    | _ => rfl
  | frame kind locals stack => cases b with
    | frame kind' locals' stack' =>
      simp only [labels, List.filterMap_append] at ha hb
      have hlocals := compareFrameValues_relabel (ha.subset fun l hl => List.mem_append_left _ hl)
        (hb.subset fun l hl => List.mem_append_left _ hl)
      have hstack := compareFrameValues_relabel (ha.subset fun l hl => List.mem_append_right _ hl)
        (hb.subset fun l hl => List.mem_append_right _ hl)
      simp only [relabel, compareOperands, hlocals, hstack]
    | _ => rfl
  | _ => cases b <;> rfl

theorem compare_relabel {a b : Instruction} (ha : ctx.Matches ctx' f a.labels)
    (hb : ctx.Matches ctx' g b.labels) :
    (a.relabel f).compare ctx' (b.relabel g) = a.compare ctx b := by
  simp only [Instruction.compare, rank_relabel, opcode?_relabel, compareOperands_relabel ha hb]

end Instruction

theorem TryCatchBlock.compare_relabel {a b : TryCatchBlock} (ha : ctx.Matches ctx' f a.labels)
    (hb : ctx.Matches ctx' g b.labels) :
    (a.relabel f).compare ctx' (b.relabel g) = a.compare ctx b := by
  have hstart : (f a.start).compare ctx' (g b.start) = a.start.compare ctx b.start :=
    Label.compare_relabel (ha.subset (by simp [labels])) (hb.subset (by simp [labels]))
  have hstop : (f a.stop).compare ctx' (g b.stop) = a.stop.compare ctx b.stop :=
    Label.compare_relabel (ha.subset (by simp [labels])) (hb.subset (by simp [labels]))
  have hhandler : (f a.handler).compare ctx' (g b.handler) = a.handler.compare ctx b.handler :=
    Label.compare_relabel (ha.subset (by simp [labels])) (hb.subset (by simp [labels]))
  simp only [relabel, compare, hstart, hstop, hhandler, ha.unless_eq,
    TypeAnnotationUse.compare_congr ha.options]

theorem LocalVariable.compare_relabel {a b : LocalVariable} (ha : ctx.Matches ctx' f a.labels)
    (hb : ctx.Matches ctx' g b.labels) :
    (a.relabel f).compare ctx' (b.relabel g) = a.compare ctx b := by
  have hstart : (f a.start).compare ctx' (g b.start) = a.start.compare ctx b.start :=
    Label.compare_relabel (ha.subset (by simp [labels])) (hb.subset (by simp [labels]))
  have hstop : (f a.stop).compare ctx' (g b.stop) = a.stop.compare ctx b.stop :=
    Label.compare_relabel (ha.subset (by simp [labels])) (hb.subset (by simp [labels]))
  simp only [relabel, compare, hstart, hstop]

theorem LocalVariableAnnotationUse.compare_relabel {a b : LocalVariableAnnotationUse}
    (ha : ctx.Matches ctx' f a.labels) (hb : ctx.Matches ctx' g b.labels) :
    (a.relabel f).compare ctx' (b.relabel g) = a.compare ctx b := by
  have hstarts := compareLabels_relabel (ha.subset fun l hl => List.mem_append_left a.ends hl)
    (hb.subset fun l hl => List.mem_append_left b.ends hl)
  have hends := compareLabels_relabel (ha.subset fun l hl => List.mem_append_right a.starts hl)
    (hb.subset fun l hl => List.mem_append_right b.starts hl)
  simp only [relabel, compare, hstarts, hends, TypeAnnotationUse.compare_congr ha.options]

/-- Bodies compare as before when the labels of each method are replaced throughout. -/
theorem Method.compareBodies_relabel {a b : Method} (ha : ctx.Matches ctx' f a.labels)
    (hb : ctx.Matches ctx' g b.labels) :
    compareBodies ctx' (a.relabel f) (b.relabel g) = compareBodies ctx a b := by
  have hinstructions : compareLists (Instruction.compare ctx') (a.relabel f).instructions
        (b.relabel g).instructions =
      compareLists (Instruction.compare ctx) a.instructions b.instructions :=
    compareLists_map (@Instruction.compare_relabel ctx ctx')
      (fun i hi => ha.subset fun l hl => mem_labels_of_instruction hi hl)
      fun i hi => hb.subset fun l hl => mem_labels_of_instruction hi hl
  have hblocks : compareUnordered (TryCatchBlock.compare ctx'.forRanges)
        (a.relabel f).tryCatchBlocks (b.relabel g).tryCatchBlocks =
      compareUnordered (TryCatchBlock.compare ctx.forRanges) a.tryCatchBlocks b.tryCatchBlocks :=
    compareUnordered_map (@TryCatchBlock.compare_relabel ctx.forRanges ctx'.forRanges)
      (fun block h => ha.forRanges.subset fun l hl => mem_labels_of_tryCatchBlock h hl)
      fun block h => hb.forRanges.subset fun l hl => mem_labels_of_tryCatchBlock h hl
  have hvariables : compareOptional (compareUnordered (LocalVariable.compare ctx'.forRanges))
        (a.relabel f).localVariables (b.relabel g).localVariables =
      compareOptional (compareUnordered (LocalVariable.compare ctx.forRanges))
        a.localVariables b.localVariables :=
    compareOptionalUnordered_map (@LocalVariable.compare_relabel ctx.forRanges ctx'.forRanges)
      (fun vs hvs v h => ha.forRanges.subset fun l hl => mem_labels_of_localVariable hvs h hl)
      fun vs hvs v h => hb.forRanges.subset fun l hl => mem_labels_of_localVariable hvs h hl
  have hvisible : compareOptional (compareUnordered (LocalVariableAnnotationUse.compare ctx'))
        (a.relabel f).visibleLocalVariableAnnotations
        (b.relabel g).visibleLocalVariableAnnotations =
      compareOptional (compareUnordered (LocalVariableAnnotationUse.compare ctx))
        a.visibleLocalVariableAnnotations b.visibleLocalVariableAnnotations :=
    compareOptionalUnordered_map (@LocalVariableAnnotationUse.compare_relabel ctx ctx')
      (fun uses hs use h => ha.subset fun l hl => mem_labels_of_visibleUse hs h hl)
      fun uses hs use h => hb.subset fun l hl => mem_labels_of_visibleUse hs h hl
  have hinvisible : compareOptional (compareUnordered (LocalVariableAnnotationUse.compare ctx'))
        (a.relabel f).invisibleLocalVariableAnnotations
        (b.relabel g).invisibleLocalVariableAnnotations =
      compareOptional (compareUnordered (LocalVariableAnnotationUse.compare ctx))
        a.invisibleLocalVariableAnnotations b.invisibleLocalVariableAnnotations :=
    compareOptionalUnordered_map (@LocalVariableAnnotationUse.compare_relabel ctx ctx')
      (fun uses hs use h => ha.subset fun l hl => mem_labels_of_invisibleUse hs h hl)
      fun uses hs use h => hb.subset fun l hl => mem_labels_of_invisibleUse hs h hl
  simp only [compareBodies, ha.unless_eq, hinstructions, hblocks, hvariables, hvisible, hinvisible]
  rfl

end ClassMatch
