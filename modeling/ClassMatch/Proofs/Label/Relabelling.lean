import ClassMatch.Label.LineNumbers
import Mathlib

/-!
Relabelling: what becomes of instructions, tables and methods when every label in them is replaced
by another one, and which labels there are to replace.
-/
namespace ClassMatch

/-- If each element gets the new labels in place of its old ones, so does a list of them. -/
theorem flatMap_labels_map {α : Type} {labels : α → List Label} {g : α → α} {f : Label → Label}
    (hg : ∀ a, labels (g a) = (labels a).map f) (as : List α) :
    (as.map g).flatMap labels = (as.flatMap labels).map f := by
  rw [List.flatMap_map, List.map_flatMap]
  exact List.flatMap_congr fun a _ => hg a

def FrameValue.relabel (f : Label → Label) : FrameValue → FrameValue
  | uninitialized label => uninitialized (f label)
  | value => value

@[simp] theorem FrameValue.relabel_id : FrameValue.relabel id = id := by
  funext value
  cases value <;> rfl

theorem FrameValue.label?_relabel (f : Label → Label) (value : FrameValue) :
    (value.relabel f).label? = value.label?.map f := by
  cases value <;> rfl

namespace Instruction

def relabel (f : Label → Label) : Instruction → Instruction
  | jump op target => jump op (f target)
  | label placed => label (f placed)
  | tableSwitch min max default targets => tableSwitch min max (f default) (targets.map f)
  | lookupSwitch default keys targets => lookupSwitch (f default) keys (targets.map f)
  | frame kind locals stack =>
    frame kind (locals.map (FrameValue.relabel f)) (stack.map (FrameValue.relabel f))
  | lineNumber line start => lineNumber line (f start)
  | i => i

@[simp] theorem rank_relabel (f : Label → Label) (i : Instruction) :
    (i.relabel f).rank = i.rank := by
  cases i <;> rfl

@[simp] theorem opcode?_relabel (f : Label → Label) (i : Instruction) :
    (i.relabel f).opcode? = i.opcode? := by
  cases i <;> rfl

@[simp] theorem placed?_relabel (f : Label → Label) (i : Instruction) :
    (i.relabel f).placed? = i.placed?.map f := by
  cases i <;> rfl

@[simp] theorem isLineNumber_relabel (f : Label → Label) (i : Instruction) :
    (i.relabel f).isLineNumber = i.isLineNumber := by
  cases i <;> rfl

@[simp] theorem relabel_id : relabel id = id := by
  funext i
  cases i <;> simp [relabel]

theorem labels_relabel (f : Label → Label) (i : Instruction) :
    (i.relabel f).labels = i.labels.map f := by
  have hvalues (vs : List FrameValue) :
      (vs.map (FrameValue.relabel f)).filterMap FrameValue.label? =
        (vs.filterMap FrameValue.label?).map f := by
    rw [List.filterMap_map, List.map_filterMap]
    exact List.filterMap_congr fun v _ => FrameValue.label?_relabel f v
  cases i with
  | frame kind locals stack =>
    rw [relabel, labels, labels, ← List.map_append, hvalues]
  | _ => rfl

end Instruction

theorem mem_placedLabels {instructions : List Instruction} {l : Label} :
    l ∈ placedLabels instructions ↔ .label l ∈ instructions := by
  constructor
  · intro h
    obtain ⟨i, hi, hl⟩ := List.mem_filterMap.mp h
    cases i with
    | label placed =>
      obtain rfl : placed = l := by simpa [Instruction.placed?] using hl
      exact hi
    | _ => simp [Instruction.placed?] at hl
  · intro h
    exact List.mem_filterMap.mpr ⟨_, h, rfl⟩

theorem mem_labels_of_mem_placedLabels {instructions : List Instruction} {l : Label}
    (h : l ∈ placedLabels instructions) : l ∈ instructions.flatMap Instruction.labels :=
  List.mem_flatMap.mpr ⟨.label l, mem_placedLabels.mp h, by simp [Instruction.labels]⟩

def TryCatchBlock.relabel (f : Label → Label) (block : TryCatchBlock) : TryCatchBlock :=
  { block with start := f block.start, stop := f block.stop, handler := f block.handler }

@[simp] theorem TryCatchBlock.relabel_id : TryCatchBlock.relabel id = id := rfl

def LocalVariable.relabel (f : Label → Label) (v : LocalVariable) : LocalVariable :=
  { v with start := f v.start, stop := f v.stop }

@[simp] theorem LocalVariable.relabel_id : LocalVariable.relabel id = id := rfl

def LocalVariableAnnotationUse.relabel (f : Label → Label) (use : LocalVariableAnnotationUse) :
    LocalVariableAnnotationUse :=
  { use with starts := use.starts.map f, ends := use.ends.map f }

@[simp] theorem LocalVariableAnnotationUse.relabel_id :
    LocalVariableAnnotationUse.relabel id = id := by
  funext use
  simp [relabel]

namespace Method

/-- Labels occur in the instructions and in the tables of the body, and nowhere else. -/
def relabel (f : Label → Label) (m : Method) : Method :=
  { m with
    instructions := m.instructions.map (Instruction.relabel f)
    tryCatchBlocks := m.tryCatchBlocks.map (TryCatchBlock.relabel f)
    localVariables := m.localVariables.map (List.map (LocalVariable.relabel f))
    visibleLocalVariableAnnotations :=
      m.visibleLocalVariableAnnotations.map (List.map (LocalVariableAnnotationUse.relabel f))
    invisibleLocalVariableAnnotations :=
      m.invisibleLocalVariableAnnotations.map (List.map (LocalVariableAnnotationUse.relabel f)) }

@[simp] theorem relabel_id (m : Method) : m.relabel id = m := by
  simp [relabel]

/-- All labels that occur in the method, wherever that is. -/
def labels (m : Method) : List Label := m.instructions.flatMap Instruction.labels ++ m.anchors

variable {m : Method} {l : Label}

theorem mem_labels_of_instruction {i : Instruction} (hi : i ∈ m.instructions)
    (hl : l ∈ i.labels) : l ∈ m.labels := by
  simp only [labels, List.mem_append, List.mem_flatMap]
  exact .inl ⟨i, hi, hl⟩

theorem mem_labels_of_tryCatchBlock {block : TryCatchBlock} (hb : block ∈ m.tryCatchBlocks)
    (hl : l ∈ block.labels) : l ∈ m.labels := by
  simp only [labels, anchors, List.mem_append, List.mem_flatMap]
  exact .inr (.inl (.inl (.inl (.inr ⟨block, hb, hl⟩))))

theorem mem_labels_of_localVariable {vs : List LocalVariable} {v : LocalVariable}
    (hvs : m.localVariables = some vs) (hv : v ∈ vs) (hl : l ∈ v.labels) : l ∈ m.labels := by
  simp only [labels, anchors, hvs, List.mem_append, List.mem_flatMap]
  exact .inr (.inl (.inl (.inr ⟨v, hv, hl⟩)))

theorem mem_labels_of_visibleUse {uses : List LocalVariableAnnotationUse}
    {use : LocalVariableAnnotationUse} (hs : m.visibleLocalVariableAnnotations = some uses)
    (hu : use ∈ uses) (hl : l ∈ use.labels) : l ∈ m.labels := by
  simp only [labels, anchors, hs, List.mem_append, List.mem_flatMap]
  exact .inr (.inl (.inr ⟨use, hu, hl⟩))

theorem mem_labels_of_invisibleUse {uses : List LocalVariableAnnotationUse}
    {use : LocalVariableAnnotationUse} (hs : m.invisibleLocalVariableAnnotations = some uses)
    (hu : use ∈ uses) (hl : l ∈ use.labels) : l ∈ m.labels := by
  simp only [labels, anchors, hs, List.mem_append, List.mem_flatMap]
  exact .inr (.inr ⟨use, hu, hl⟩)

theorem mem_labels_of_placed (h : l ∈ placedLabels m.instructions) : l ∈ m.labels :=
  List.mem_append_left _ (mem_labels_of_mem_placedLabels h)

end Method

end ClassMatch
