import ClassMatch.Proofs.LineNumbers.Noise

/-!
Tables that are ignored. Such a table is not compared, but while line numbers are ignored as well it
still decides which labels stay with the instructions. What it holds makes no difference as long as
the same labels stay, and otherwise it can make one.
-/
namespace ClassMatch

open Std

/-- What refers to labels in a method besides its instructions. -/
inductive Table
  | tryCatchBlocks | localVariables | visibleAnnotations | invisibleAnnotations

namespace Table

/-- The option that leaves the table out. -/
def option : Table → CheckOption
  | tryCatchBlocks => .ignoreTryCatchBlocks
  | localVariables => .ignoreLocalVariables
  | visibleAnnotations => .ignoreVisibleLocalVariableAnnotations
  | invisibleAnnotations => .ignoreInvisibleLocalVariableAnnotations

def Content : Table → Type
  | tryCatchBlocks => List TryCatchBlock
  | localVariables => Option (List LocalVariable)
  | visibleAnnotations | invisibleAnnotations => Option (List LocalVariableAnnotationUse)

def empty : (t : Table) → t.Content
  | tryCatchBlocks => []
  | localVariables | visibleAnnotations | invisibleAnnotations => none

/-- The label is all that the table refers to. -/
def mentioning (l : Label) : (t : Table) → t.Content
  | tryCatchBlocks => [.bare l]
  | localVariables => some [.bare l]
  | visibleAnnotations | invisibleAnnotations => some [.bare l]

end Table

/-- With line numbers ignored, labels count in instructions and in the annotations on local
variables, and these are all left out. -/
structure Context.LabelsUncounted (ctx : Context) : Prop where
  instructions : ctx.has .ignoreInstructions = true
  visibleAnnotations : ctx.has .ignoreVisibleLocalVariableAnnotations = true
  invisibleAnnotations : ctx.has .ignoreInvisibleLocalVariableAnnotations = true

variable {ctx : Context}

theorem Context.has_forInstructions {as bs : List Instruction} (option : CheckOption) :
    (ctx.forInstructions as bs).has option = ctx.has option := by
  rw [has, has, forInstructions_options]

theorem Context.forRanges_forInstructions (h : ctx.has .ignoreLineNumbers = true)
    (as bs : List Instruction) : (ctx.forInstructions as bs).forRanges = ctx.forRanges := by
  rw [forRanges, has_forInstructions, forRanges, if_pos h, if_pos h]
  unfold forInstructions
  cases ctx.fixed <;> rfl

namespace Method

variable {t : Table} {a b m n : Method} {c d : t.Content}

def withTable (m : Method) : (t : Table) → t.Content → Method
  | .tryCatchBlocks, blocks => { m with tryCatchBlocks := blocks }
  | .localVariables, vs => { m with localVariables := vs }
  | .visibleAnnotations, uses => { m with visibleLocalVariableAnnotations := uses }
  | .invisibleAnnotations, uses => { m with invisibleLocalVariableAnnotations := uses }

theorem exists_withTable_eq (m : Method) (t : Table) : ∃ c, m.withTable t c = m := by
  cases t <;> exact ⟨_, rfl⟩

@[simp] theorem instructions_withTable : (m.withTable t c).instructions = m.instructions := by
  cases t <;> rfl

theorem compareBodies_withTable (h : ctx.has t.option = true) :
    compareBodies ctx (a.withTable t c) (b.withTable t d) = compareBodies ctx a b := by
  cases t <;> simp only [Table.option] at h <;>
    simp only [compareBodies, withTable, unless_of_has h]

/-- An ignored table is not compared. -/
theorem compareViews_withTable (h : ctx.has t.option = true) :
    compareViews ctx (a.withTable t c) (b.withTable t d) = compareViews ctx a b := by
  have hheaders : compareHeaders ctx (a.withTable t c) (b.withTable t d) =
      compareHeaders ctx a b := by
    cases t <;> rfl
  have hdefault (m : Method) (c : t.Content) :
      (m.withTable t c).annotationDefault = m.annotationDefault := by
    cases t <;> rfl
  have hbodies := @compareBodies_withTable _ t a b c d
    ((@Context.has_forInstructions ctx a.instructions b.instructions _).trans h)
  rw [compareViews, compareViews, hheaders, instructions_withTable, instructions_withTable,
    hbodies, hdefault, hdefault]

theorem view_eq_withInstructions (ctx : Context) (m : Method) :
    ctx.view m = { m with instructions := (ctx.view m).instructions } := by
  unfold Context.view
  split <;> rfl

theorem view_withTable
    (h : (ctx.view (m.withTable t c)).instructions = (ctx.view m).instructions) :
    ctx.view (m.withTable t c) = (ctx.view m).withTable t c := by
  rw [view_eq_withInstructions, h, view_eq_withInstructions ctx m]
  cases t <;> rfl

/-- The same instructions stay if something refers to the same of the labels that they place. -/
theorem instructions_view_withTable
    (h : ∀ l ∈ placedLabels m.instructions, (m.withTable t c).Refers l ↔ m.Refers l) :
    (ctx.view (m.withTable t c)).instructions = (ctx.view m).instructions := by
  unfold Context.view
  split
  · rw [withoutLineNumbers, withoutLineNumbers, instructions_withTable]
    refine List.filter_congr fun i hi => Instruction.isKept_congr fun l hl => ?_
    rw [mem_anchors_iff, mem_anchors_iff]
    exact h l (List.mem_filterMap.mpr ⟨i, hi, hl⟩)
  · exact instructions_withTable

/-- Where labels do not count, no instruction makes a difference. -/
theorem compare_of_labelsUncounted (h : ctx.LabelsUncounted)
    (hline : ctx.has .ignoreLineNumbers = true) (a b : Method) :
    a.compare ctx b = compareViews ctx a b := by
  have hbodies (a b : Method) (as bs : List Instruction) :
      compareBodies (ctx.forInstructions as bs) a b = compareBodies ctx a b := by
    have hunless (option : CheckOption) (order : Ordering) :
        (ctx.forInstructions as bs).unless option order = ctx.unless option order := by
      rw [Context.unless, Context.has_forInstructions, Context.unless]
    simp only [compareBodies, hunless, unless_of_has h.instructions,
      unless_of_has h.visibleAnnotations, unless_of_has h.invisibleAnnotations,
      Context.forRanges_forInstructions hline]
  have hinstructions (as bs : List Instruction) : compareBodies ctx { a with instructions := as }
      { b with instructions := bs } = compareBodies ctx a b := by
    simp only [compareBodies, unless_of_has h.instructions]
  rw [Method.compare, view_eq_withInstructions ctx a, view_eq_withInstructions ctx b,
    compareViews, compareViews, hbodies, hbodies, hinstructions]
  rfl

/-- Why it may not matter what an ignored table of the method holds: line numbers are not ignored,
or the same of the labels that the method places are referred to, or labels do not count. -/
def TableUnnoticed (ctx : Context) (m : Method) (t : Table) (c : t.Content) : Prop :=
  ctx.has .ignoreLineNumbers = false ∨
    (∀ l ∈ placedLabels m.instructions, (m.withTable t c).Refers l ↔ m.Refers l) ∨
    ctx.LabelsUncounted

theorem compare_withTable (ht : ctx.has t.option = true) (ha : TableUnnoticed ctx a t c)
    (hb : TableUnnoticed ctx b t d) :
    (a.withTable t c).compare ctx (b.withTable t d) = a.compare ctx b := by
  -- Only where labels do not count may other instructions stay than before.
  by_cases hu : ctx.has .ignoreLineNumbers = true ∧ ctx.LabelsUncounted
  · rw [compare_of_labelsUncounted hu.2 hu.1, compare_of_labelsUncounted hu.2 hu.1,
      compareViews_withTable ht]
  · have hview (m : Method) (c : t.Content) (h : TableUnnoticed ctx m t c) :
        ctx.view (m.withTable t c) = (ctx.view m).withTable t c := by
      refine view_withTable ?_
      rcases h with hline | hrefers | hlabels
      · rw [Context.view_eq_self hline, Context.view_eq_self hline, instructions_withTable]
      · exact instructions_view_withTable hrefers
      · simp [Context.view, mt (And.intro · hlabels) hu]
    rw [Method.compare, Method.compare, hview a c ha, hview b d hb, compareViews_withTable ht]

theorem mem_anchors_mentioning {l l' : Label} :
    l' ∈ (m.withTable t (t.mentioning l)).anchors ↔
      l' = l ∨ l' ∈ (m.withTable t t.empty).anchors := by
  cases t <;>
    simp only [withTable, Table.mentioning, Table.empty, anchors, TryCatchBlock.bare,
      LocalVariable.bare, LocalVariableAnnotationUse.bare, TryCatchBlock.labels,
      LocalVariable.labels, LocalVariableAnnotationUse.labels, List.flatMap_cons, List.flatMap_nil,
      List.mem_append, List.mem_cons, List.not_mem_nil, Option.getD_some, Option.getD_none] <;>
    tauto

theorem mem_anchors_of_mem_empty {l : Label} (h : l ∈ (m.withTable t t.empty).anchors) :
    l ∈ (m.withTable t c).anchors := by
  cases t <;>
    simp only [withTable, Table.empty, anchors, List.flatMap_nil, List.mem_append, List.not_mem_nil,
      Option.getD_none] at h ⊢ <;>
    tauto

/-- A label that comes to be referred to stays where it went with the line numbers before. -/
theorem length_withoutLineNumbers_lt {anchors anchors' : List Label} {l : Label}
    {instructions : List Instruction} (hsub : ∀ l ∈ anchors, l ∈ anchors') (hl : l ∈ anchors')
    (hn : l ∉ anchors) (hp : l ∈ placedLabels instructions) :
    (ClassMatch.withoutLineNumbers anchors instructions).length <
      (ClassMatch.withoutLineNumbers anchors' instructions).length := by
  have hstays : ClassMatch.withoutLineNumbers anchors instructions =
      (ClassMatch.withoutLineNumbers anchors' instructions).filter
        (Instruction.isKept anchors) := by
    rw [ClassMatch.withoutLineNumbers, ClassMatch.withoutLineNumbers, List.filter_filter]
    refine List.filter_congr fun i _ => ?_
    cases i with
    | label l => simpa using hsub l
    | _ => rfl
  rw [hstays, List.length_filter_lt_length_iff_exists]
  refine ⟨.label l, List.mem_filter.mpr ⟨mem_placedLabels.mp hp, ?_⟩, ?_⟩
  · exact Instruction.isKept_label.mpr hl
  · exact mt Instruction.isKept_label.mp hn

theorem length_view_of_compare_eq_eq (hi : ctx.has .ignoreInstructions = false)
    (h : a.compare ctx b = .eq) :
    (ctx.view a).instructions.length = (ctx.view b).instructions.length := by
  rw [Method.compare, compareViews, Ordering.then_eq_eq, Ordering.then_eq_eq, compareBodies,
    Ordering.then_eq_eq, unless_eq_eq, Context.has_forInstructions, hi, compareLists_eq_eq] at h
  exact (h.2.1.1.resolve_left Bool.false_ne_true).length_eq

/-- Whatever it is compared with or checked against, and whichever comes first, the one method
gives the same result as the other. -/
structure Indistinguishable (ctx : Context) (m n : Method) : Prop where
  compare_left : ∀ b : Method, n.compare ctx b = m.compare ctx b
  compare_right : ∀ b : Method, b.compare ctx n = b.compare ctx m
  passes_left : ∀ (b : Method) (trail : Trail),
    ((n.check ctx b).run trail).passes = ((m.check ctx b).run trail).passes
  passes_right : ∀ (b : Method) (trail : Trail),
    ((b.check ctx n).run trail).passes = ((b.check ctx m).run trail).passes

theorem indistinguishable_of_compare (hleft : ∀ b : Method, n.compare ctx b = m.compare ctx b)
    (hright : ∀ b : Method, b.compare ctx n = b.compare ctx m) : Indistinguishable ctx m n where
  compare_left := hleft
  compare_right := hright
  passes_left b trail := by rw [Bool.eq_iff_iff, passes_check, passes_check, hleft b]
  passes_right b trail := by rw [Bool.eq_iff_iff, passes_check, passes_check, hright b]

theorem indistinguishable_withTable (ht : ctx.has t.option = true)
    (h : TableUnnoticed ctx m t c) : Indistinguishable ctx m (m.withTable t c) := by
  -- The other method keeps its table, which is the same as to put in what it holds already.
  have hb (b : Method) : ∃ d, b.withTable t d = b ∧ TableUnnoticed ctx b t d := by
    obtain ⟨d, hd⟩ := exists_withTable_eq b t
    exact ⟨d, hd, .inr (.inl fun l _ => by rw [hd])⟩
  refine indistinguishable_of_compare (fun b => ?_) fun b => ?_
  · obtain ⟨d, hd, hu⟩ := hb b
    have heq := compare_withTable ht h hu
    rwa [hd] at heq
  · obtain ⟨d, hd, hu⟩ := hb b
    have heq := compare_withTable ht hu h
    rwa [hd] at heq

/-- If nothing else refers to a label that the method places, an ignored table can keep it from
going with the line numbers. -/
theorem forall_indistinguishable_iff (ht : ctx.has t.option = true)
    (hline : ctx.has .ignoreLineNumbers = true) (hi : ctx.has .ignoreInstructions = false) :
    (∀ c, Indistinguishable ctx m (m.withTable t c)) ↔
      ∀ l ∈ placedLabels m.instructions, (m.withTable t t.empty).Refers l := by
  constructor
  · intro h l hp
    by_contra hn
    -- Mentioned in the table the label stays, and with the table empty it goes.
    have heq : (m.withTable t (t.mentioning l)).compare ctx (m.withTable t t.empty) = .eq := by
      rw [(h _).compare_left, ← (h t.empty).compare_left]
      exact compare_self ctx _
    have hlength := length_view_of_compare_eq_eq hi heq
    have hview := Context.view_eq_withoutLineNumbers hline
    have hlt := length_withoutLineNumbers_lt
      (fun l' hl' => mem_anchors_mentioning.mpr (.inr hl')) (mem_anchors_mentioning.mpr (.inl rfl))
      (mt mem_anchors_iff.mp hn) hp
    rw [hview, hview, withoutLineNumbers, withoutLineNumbers, instructions_withTable,
      instructions_withTable] at hlength
    exact hlt.ne' hlength
  · intro h c
    refine indistinguishable_withTable ht (.inr (.inl fun l hl => ?_))
    obtain ⟨d, hd⟩ := exists_withTable_eq m t
    have hmem := mem_anchors_iff.mpr (h l hl)
    have hm : m.Refers l := hd ▸ mem_anchors_iff.mp (mem_anchors_of_mem_empty hmem)
    exact iff_of_true (mem_anchors_iff.mp (mem_anchors_of_mem_empty hmem)) hm

/-- What an ignored table holds makes no difference where it is unnoticed. While line numbers are
ignored and instructions are not, nothing that it can hold makes one exactly if each label that the
method places is referred to elsewhere. -/
theorem indistinguishable_of_ignored_table (ctx : Context) (t : Table)
    (ht : ctx.has t.option = true) :
    (∀ (m : Method) (c : t.Content), TableUnnoticed ctx m t c →
      Indistinguishable ctx m (m.withTable t c)) ∧
    (ctx.has .ignoreLineNumbers = true → ctx.has .ignoreInstructions = false → ∀ m : Method,
      ((∀ c, Indistinguishable ctx m (m.withTable t c)) ↔
        ∀ l ∈ placedLabels m.instructions, (m.withTable t t.empty).Refers l)) :=
  ⟨fun _ _ => indistinguishable_withTable ht, fun hline hi _ =>
    forall_indistinguishable_iff ht hline hi⟩

/-- A block may come to guard a range that begins at the target of a jump. -/
theorem indistinguishable_of_jump_target :
    Indistinguishable
      { Context.plain with options := .ofList [.ignoreTryCatchBlocks, .ignoreLineNumbers] }
      (bare "m" "()V" [.label ⟨0⟩, .jump 167 ⟨0⟩])
      ((bare "m" "()V" [.label ⟨0⟩, .jump 167 ⟨0⟩]).withTable .tryCatchBlocks
        [TryCatchBlock.bare ⟨0⟩]) :=
  ((indistinguishable_of_ignored_table _ .tryCatchBlocks rfl).2 rfl rfl _).mpr (by decide) _

/-- A block that is the first thing to refer to a label keeps it from going with the line numbers,
although blocks are ignored. -/
theorem indistinguishable_of_ignored_table_fails :
    ¬ ∀ (ctx : Context) (t : Table) (m : Method) (c : t.Content), ctx.has t.option = true →
      Indistinguishable ctx m (m.withTable t c) := by
  intro h
  have hm := (h
    { Context.plain with options := .ofList [.ignoreTryCatchBlocks, .ignoreLineNumbers] }
    .tryCatchBlocks (bare "m" "()V" [.label ⟨0⟩]) [TryCatchBlock.bare ⟨0⟩] rfl).compare_left
    (bare "m" "()V" [.label ⟨0⟩])
  revert hm
  decide

end Method

end ClassMatch
