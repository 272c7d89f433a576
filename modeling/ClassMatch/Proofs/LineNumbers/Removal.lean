import ClassMatch.Proofs.Bare
import ClassMatch.Proofs.LineNumbers.Noise

/-!
What removing line numbers removes. Line number instructions go, and the labels that nothing else
needs; the rest stays as it is. Nothing that stays comes to be needed less, so to remove them again
changes nothing, and while line numbers are ignored a method is as good as what is left of it.
-/
namespace ClassMatch

variable {ctx : Context} {anchors : List Label} {i : Instruction} {l : Label}

/-- The instruction may go on at the label, or an object in one of its slots was created there. -/
inductive Instruction.Targets : Instruction → Label → Prop
  | jump {opcode : UInt8} {l : Label} : Targets (jump opcode l) l
  | tableDefault {min max : Int32} {l : Label} {targets : List Label} :
      Targets (tableSwitch min max l targets) l
  | tableCase {min max : Int32} {l default : Label} {targets : List Label} (h : l ∈ targets) :
      Targets (tableSwitch min max default targets) l
  | lookupDefault {l : Label} {keys : List Int32} {targets : List Label} :
      Targets (lookupSwitch l keys targets) l
  | lookupCase {l default : Label} {keys : List Int32} {targets : List Label} (h : l ∈ targets) :
      Targets (lookupSwitch default keys targets) l
  | frameLocal {kind : FrameKind} {locals stack : List FrameValue} {l : Label}
      (h : .uninitialized l ∈ locals) : Targets (frame kind locals stack) l
  | frameStack {kind : FrameKind} {locals stack : List FrameValue} {l : Label}
      (h : .uninitialized l ∈ stack) : Targets (frame kind locals stack) l

theorem FrameValue.mem_filterMap_label? {values : List FrameValue} :
    l ∈ values.filterMap label? ↔ uninitialized l ∈ values := by
  rw [List.mem_filterMap]
  constructor
  · rintro ⟨value, hvalue, hl⟩
    cases value with
    | uninitialized m =>
      obtain rfl : m = l := Option.some.inj hl
      exact hvalue
    | _ => cases hl
  · intro h
    exact ⟨uninitialized l, h, rfl⟩

/-- Of the instructions with labels, those that place a label or give it a line target none. -/
theorem Instruction.targets_iff :
    i.Targets l ↔ i.placed? = none ∧ i.isLineNumber = false ∧ l ∈ i.labels := by
  constructor
  · intro h
    cases h with
    | jump | tableDefault | lookupDefault => simp [placed?, isLineNumber, labels]
    | tableCase h | lookupCase h => simp [placed?, isLineNumber, labels, h]
    | frameLocal h | frameStack h =>
      simp only [placed?, isLineNumber, labels, FrameValue.mem_filterMap_label?, List.mem_append]
      simp [h]
  · rintro ⟨hplaced, hline, hl⟩
    cases i with
    | jump opcode target =>
      obtain rfl : l = target := by simpa [labels] using hl
      exact .jump
    | tableSwitch min max default targets =>
      rcases List.mem_cons.mp hl with rfl | hl
      · exact .tableDefault
      · exact .tableCase hl
    | lookupSwitch default keys targets =>
      rcases List.mem_cons.mp hl with rfl | hl
      · exact .lookupDefault
      · exact .lookupCase hl
    | frame kind locals stack =>
      rcases List.mem_append.mp (FrameValue.mem_filterMap_label?.mp hl) with hl | hl
      · exact .frameLocal hl
      · exact .frameStack hl
    | label => cases hplaced
    | lineNumber => cases hline
    | _ => cases hl

/-- The second list is the first one without its line numbers and without the labels that are not
needed. Everything else stays, in order. -/
inductive Drops (needed : Label → Prop) : List Instruction → List Instruction → Prop
  | nil : Drops needed [] []
  | lineNumber {line : UInt32} {start : Label} {all left : List Instruction}
      (h : Drops needed all left) : Drops needed (.lineNumber line start :: all) left
  | label {l : Label} {all left : List Instruction} (hl : ¬ needed l)
      (h : Drops needed all left) : Drops needed (.label l :: all) left
  | keep {i : Instruction} {all left : List Instruction}
      (hline : ∀ line start, i ≠ .lineNumber line start) (hlabel : ∀ l, i = .label l → needed l)
      (h : Drops needed all left) : Drops needed (i :: all) (i :: left)

theorem drops_withoutLineNumbers (instructions : List Instruction) :
    Drops (· ∈ anchors) instructions (withoutLineNumbers anchors instructions) := by
  induction instructions with
  | nil => exact .nil
  | cons i rest ih =>
    cases i with
    | lineNumber line start => exact .lineNumber ih
    | label l =>
      by_cases hl : l ∈ anchors
      · rw [withoutLineNumbers, List.filter_cons_of_pos (Instruction.isKept_label.mpr hl)]
        refine .keep (by simp) (fun m hm => ?_) ih
        obtain rfl : l = m := by simpa using hm
        exact hl
      · rw [withoutLineNumbers, List.filter_cons_of_neg (mt Instruction.isKept_label.mp hl)]
        exact .label hl ih
    | _ => exact .keep (by simp) (by simp) ih

theorem withoutLineNumbers_idem (anchors : List Label) (instructions : List Instruction) :
    withoutLineNumbers anchors (withoutLineNumbers anchors instructions) =
      withoutLineNumbers anchors instructions := by
  rw [withoutLineNumbers, withoutLineNumbers, List.filter_filter]
  simp only [Bool.and_self]

namespace Method

variable {m n : Method}

/-- Something in the method needs the label to be placed. Line numbers do not count. -/
inductive Needs (m : Method) (l : Label) : Prop
  | instruction {i : Instruction} (hi : i ∈ m.instructions) (h : i.Targets l)
  | tryCatchBlock {block : TryCatchBlock} (hb : block ∈ m.tryCatchBlocks)
      (h : l = block.start ∨ l = block.stop ∨ l = block.handler)
  | localVariable {vs : List LocalVariable} {v : LocalVariable} (hvs : m.localVariables = some vs)
      (hv : v ∈ vs) (h : l = v.start ∨ l = v.stop)
  | visibleUse {uses : List LocalVariableAnnotationUse} {use : LocalVariableAnnotationUse}
      (hs : m.visibleLocalVariableAnnotations = some uses) (hu : use ∈ uses)
      (h : l ∈ use.starts ∨ l ∈ use.ends)
  | invisibleUse {uses : List LocalVariableAnnotationUse} {use : LocalVariableAnnotationUse}
      (hs : m.invisibleLocalVariableAnnotations = some uses) (hu : use ∈ uses)
      (h : l ∈ use.starts ∨ l ∈ use.ends)

theorem needs_iff_refers : m.Needs l ↔ m.Refers l := by
  constructor
  · rintro (⟨hi, h⟩ | ⟨hb, h⟩ | ⟨hvs, hv, h⟩ | ⟨hs, hu, h⟩ | ⟨hs, hu, h⟩)
    · obtain ⟨hplaced, hline, hl⟩ := Instruction.targets_iff.mp h
      exact .instruction hi hplaced hline hl
    · exact .tryCatchBlock hb (by simpa [TryCatchBlock.labels] using h)
    · exact .localVariable hvs hv (by simpa [LocalVariable.labels] using h)
    · exact .visibleUse hs hu (List.mem_append.mpr h)
    · exact .invisibleUse hs hu (List.mem_append.mpr h)
  · rintro (⟨hi, hplaced, hline, hl⟩ | ⟨hb, hl⟩ | ⟨hvs, hv, hl⟩ | ⟨hs, hu, hl⟩ | ⟨hs, hu, hl⟩)
    · exact .instruction hi (Instruction.targets_iff.mpr ⟨hplaced, hline, hl⟩)
    · exact .tryCatchBlock hb (by simpa [TryCatchBlock.labels] using hl)
    · exact .localVariable hvs hv (by simpa [LocalVariable.labels] using hl)
    · exact .visibleUse hs hu (List.mem_append.mp hl)
    · exact .invisibleUse hs hu (List.mem_append.mp hl)

theorem mem_anchors_iff_needs : l ∈ m.anchors ↔ m.Needs l :=
  mem_anchors_iff.trans needs_iff_refers.symm

theorem drops_instructions : Drops m.Needs m.instructions m.withoutLineNumbers.instructions := by
  have hneeds : m.Needs = (· ∈ m.anchors) := funext fun l => propext mem_anchors_iff_needs.symm
  rw [hneeds]
  exact drops_withoutLineNumbers m.instructions

/-- What is left has no line numbers and no labels to remove. -/
theorem withoutLineNumbers_withoutLineNumbers :
    m.withoutLineNumbers.withoutLineNumbers = m.withoutLineNumbers := by
  have hinstructions : ClassMatch.withoutLineNumbers m.withoutLineNumbers.anchors
      m.withoutLineNumbers.instructions = m.withoutLineNumbers.instructions := by
    rw [anchors_withoutLineNumbers]
    exact withoutLineNumbers_idem m.anchors m.instructions
  rw [withoutLineNumbers, hinstructions]

theorem view_withoutLineNumbers (h : ctx.has .ignoreLineNumbers = true) :
    ctx.view m.withoutLineNumbers = ctx.view m := by
  rw [Context.view_eq_withoutLineNumbers h, Context.view_eq_withoutLineNumbers h,
    withoutLineNumbers_withoutLineNumbers]

/-- A check fails at a difference between what the context looks at. -/
theorem failure_check (ctx : Context) (actual expected : Method) (trail : Trail) :
    ((actual.check ctx expected).run trail).failure =
      ((checkViews ctx (ctx.view actual) (ctx.view expected)).run trail).failure := by
  rw [check, Check.failure_all]
  simp [Check.log]

/-- Removing line numbers removes these, and the labels that nothing else needs, and keeps the rest
as it is. What is left needs the same labels, and has nothing to remove. While line numbers are
ignored, two methods compare, and pass or fail their check, as what is left of them does. -/
theorem removes_line_numbers_and_unneeded_labels (m : Method) :
    m.withoutLineNumbers = { m with instructions := m.withoutLineNumbers.instructions } ∧
    Drops m.Needs m.instructions m.withoutLineNumbers.instructions ∧
    (∀ l, l ∈ m.anchors ↔ m.Needs l) ∧
    m.withoutLineNumbers.anchors = m.anchors ∧
    m.withoutLineNumbers.withoutLineNumbers = m.withoutLineNumbers ∧
    ∀ (n : Method) (ctx : Context), ctx.has .ignoreLineNumbers = true →
      m.withoutLineNumbers.compare ctx n.withoutLineNumbers = m.compare ctx n ∧
      ∀ trail : Trail,
        ((m.withoutLineNumbers.check ctx n.withoutLineNumbers).run trail).failure =
          ((m.check ctx n).run trail).failure := by
  refine ⟨rfl, drops_instructions, fun l => mem_anchors_iff_needs, anchors_withoutLineNumbers,
    withoutLineNumbers_withoutLineNumbers, fun n ctx h => ⟨?_, fun trail => ?_⟩⟩
  · rw [compare, view_withoutLineNumbers h, view_withoutLineNumbers h, compare]
  · rw [failure_check, view_withoutLineNumbers h, view_withoutLineNumbers h, failure_check]

/-- A loop is left of a method with a line number, and one copy of it has no line number. -/
theorem removes_line_number_of_loop :
    let ctx := { Context.plain with options := .ofList [.ignoreLineNumbers] }
    let m := bare "m" "()V" [.label ⟨0⟩, .lineNumber 3 ⟨0⟩, .label ⟨1⟩, .jump 167 ⟨1⟩]
    let n := bare "m" "()V" [.label ⟨5⟩, .jump 167 ⟨5⟩]
    ctx.has .ignoreLineNumbers = true ∧
      m.withoutLineNumbers.instructions = [.label ⟨1⟩, .jump 167 ⟨1⟩] ∧
      m.withoutLineNumbers.compare ctx n.withoutLineNumbers = m.compare ctx n ∧
      m.compare ctx n = .eq :=
  ⟨by decide, by rfl,
    ((removes_line_numbers_and_unneeded_labels
      (bare "m" "()V" [.label ⟨0⟩, .lineNumber 3 ⟨0⟩, .label ⟨1⟩, .jump 167 ⟨1⟩])).2.2.2.2.2
      (bare "m" "()V" [.label ⟨5⟩, .jump 167 ⟨5⟩])
      { Context.plain with options := .ofList [.ignoreLineNumbers] } (by decide)).1,
    by decide⟩

end Method

end ClassMatch
