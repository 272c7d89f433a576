import ClassMatch.Proofs.Check.Assertion
import ClassMatch.Proofs.Label.Ordinals
import ClassMatch.Proofs.Order.Antisymmetry

/-!
What goes unnoticed while line numbers are ignored: line numbers, the labels that only they need,
and the identity of all other labels. Each edit of such an instruction leaves the method as it is
compared unchanged, and so does any number of them.
-/
namespace ClassMatch

open Std

variable {ctx : Context} {f : Label → Label} {before after : List Instruction} {i : Instruction}

namespace Instruction

@[simp] theorem isKept_label {anchors : List Label} {l : Label} :
    (label l).isKept anchors = true ↔ l ∈ anchors := List.contains_iff_mem

theorem isKept_congr {anchors anchors' : List Label}
    (h : ∀ l ∈ i.placed?, l ∈ anchors ↔ l ∈ anchors') : i.isKept anchors = i.isKept anchors' := by
  cases i with
  | label l =>
    rw [Bool.eq_iff_iff, isKept_label, isKept_label]
    exact h l rfl
  | _ => rfl

theorem isKept_relabel {anchors : List Label}
    (h : ∀ l ∈ i.placed?, f l ∈ anchors.map f ↔ l ∈ anchors) :
    (i.relabel f).isKept (anchors.map f) = i.isKept anchors := by
  cases i with
  | label l =>
    rw [relabel, Bool.eq_iff_iff, isKept_label, isKept_label]
    exact h l rfl
  | _ => rfl

end Instruction

theorem instructionAnchors_relabel (instructions : List Instruction) :
    instructionAnchors (instructions.map (Instruction.relabel f)) =
      (instructionAnchors instructions).map f := by
  rw [instructionAnchors, List.filter_map, flatMap_labels_map (Instruction.labels_relabel f),
    instructionAnchors]
  simp [Function.comp_def]

/-- Nothing that refers to a label goes with the line numbers, apart from these themselves. -/
theorem instructionAnchors_withoutLineNumbers (anchors : List Label)
    (instructions : List Instruction) :
    instructionAnchors (withoutLineNumbers anchors instructions) =
      instructionAnchors instructions := by
  rw [instructionAnchors, withoutLineNumbers, List.filter_filter, instructionAnchors]
  congr 1
  refine List.filter_congr fun i _ => ?_
  cases i <;> simp [Instruction.placed?, Instruction.isLineNumber, Instruction.isKept]

theorem exists_of_mem_getD {α : Type} {a : α} {table : Option (List α)} (h : a ∈ table.getD []) :
    ∃ as, table = some as ∧ a ∈ as := by
  cases table with
  | none => simp at h
  | some as => exact ⟨as, rfl, h⟩

namespace Method

variable {m n : Method}

/-- Something other than a line number refers to the label; to place it is not to refer to it. -/
inductive Refers (m : Method) (l : Label) : Prop
  | instruction {i : Instruction} (hi : i ∈ m.instructions) (hplaced : i.placed? = none)
      (hline : i.isLineNumber = false) (hl : l ∈ i.labels)
  | tryCatchBlock {block : TryCatchBlock} (hb : block ∈ m.tryCatchBlocks) (hl : l ∈ block.labels)
  | localVariable {vs : List LocalVariable} {v : LocalVariable} (hvs : m.localVariables = some vs)
      (hv : v ∈ vs) (hl : l ∈ v.labels)
  | visibleUse {uses : List LocalVariableAnnotationUse} {use : LocalVariableAnnotationUse}
      (hs : m.visibleLocalVariableAnnotations = some uses) (hu : use ∈ uses) (hl : l ∈ use.labels)
  | invisibleUse {uses : List LocalVariableAnnotationUse} {use : LocalVariableAnnotationUse}
      (hs : m.invisibleLocalVariableAnnotations = some uses) (hu : use ∈ uses) (hl : l ∈ use.labels)

theorem mem_anchors_iff {l : Label} : l ∈ m.anchors ↔ m.Refers l := by
  have hinstruction : l ∈ instructionAnchors m.instructions ↔
      ∃ i ∈ m.instructions, i.placed? = none ∧ i.isLineNumber = false ∧ l ∈ i.labels := by
    simp [instructionAnchors, and_assoc]
  simp only [anchors, List.mem_append, List.mem_flatMap, hinstruction]
  constructor
  · rintro ((((⟨i, hi, hplaced, hline, hl⟩ | ⟨block, hb, hl⟩) | ⟨v, hv, hl⟩) | ⟨use, hu, hl⟩) |
      ⟨use, hu, hl⟩)
    · exact .instruction hi hplaced hline hl
    · exact .tryCatchBlock hb hl
    · obtain ⟨vs, hvs, hv⟩ := exists_of_mem_getD hv
      exact .localVariable hvs hv hl
    · obtain ⟨uses, hs, hu⟩ := exists_of_mem_getD hu
      exact .visibleUse hs hu hl
    · obtain ⟨uses, hs, hu⟩ := exists_of_mem_getD hu
      exact .invisibleUse hs hu hl
  · rintro (⟨hi, hplaced, hline, hl⟩ | ⟨hb, hl⟩ | ⟨hvs, hv, hl⟩ | ⟨hs, hu, hl⟩ | ⟨hs, hu, hl⟩)
    · exact .inl (.inl (.inl (.inl ⟨_, hi, hplaced, hline, hl⟩)))
    · exact .inl (.inl (.inl (.inr ⟨_, hb, hl⟩)))
    · exact .inl (.inl (.inr ⟨_, by rwa [hvs], hl⟩))
    · exact .inl (.inr ⟨_, by rwa [hs], hl⟩)
    · exact .inr ⟨_, by rwa [hs], hl⟩

instance (m : Method) (l : Label) : Decidable (m.Refers l) :=
  decidable_of_iff (l ∈ m.anchors) mem_anchors_iff

/-- A line number, or a label to which nothing but line numbers refers. -/
inductive IsNoise (m : Method) : Instruction → Prop
  | lineNumber (line : UInt32) (start : Label) : IsNoise m (.lineNumber line start)
  | label {l : Label} (h : ¬ m.Refers l) : IsNoise m (.label l)

/-- One line number, or one label that only line numbers need, is inserted somewhere or deleted. -/
inductive NoiseEdit : Method → Method → Prop
  | insert {m : Method} (before after : List Instruction) (i : Instruction)
      (hm : m.instructions = before ++ after) (hi : m.IsNoise i) :
      NoiseEdit m { m with instructions := before ++ i :: after }
  | delete {m : Method} (before after : List Instruction) (i : Instruction)
      (hm : m.instructions = before ++ i :: after) (hi : m.IsNoise i) :
      NoiseEdit m { m with instructions := before ++ after }

theorem IsNoise.isKept (hi : m.IsNoise i) : i.isKept m.anchors = false := by
  cases hi with
  | lineNumber => rfl
  | label h =>
    rw [Bool.eq_false_iff, Ne, Instruction.isKept_label, mem_anchors_iff]
    exact h

theorem IsNoise.instructionAnchors_eq (hi : m.IsNoise i) :
    instructionAnchors (before ++ i :: after) = instructionAnchors (before ++ after) := by
  cases hi <;> simp [instructionAnchors, Instruction.placed?, Instruction.isLineNumber]

theorem IsNoise.withoutLineNumbers_eq (hi : m.IsNoise i) :
    ClassMatch.withoutLineNumbers m.anchors (before ++ i :: after) =
      ClassMatch.withoutLineNumbers m.anchors (before ++ after) := by
  simp [ClassMatch.withoutLineNumbers, hi.isKept]

/-- An edit leaves the method without line numbers as it is. -/
theorem NoiseEdit.withoutLineNumbers_eq (h : NoiseEdit m n) :
    n.withoutLineNumbers = m.withoutLineNumbers := by
  cases h with
  | insert before after i hm hi =>
    have hanchors : anchors { m with instructions := before ++ i :: after } = m.anchors := by
      rw [anchors, anchors, hm, hi.instructionAnchors_eq]
    rw [withoutLineNumbers, withoutLineNumbers, hanchors, hi.withoutLineNumbers_eq, hm]
  | delete before after i hm hi =>
    have hanchors : anchors { m with instructions := before ++ after } = m.anchors := by
      rw [anchors, anchors, hm, hi.instructionAnchors_eq]
    rw [withoutLineNumbers, withoutLineNumbers, hanchors, hm, hi.withoutLineNumbers_eq]

theorem withoutLineNumbers_eq_of_edits (h : Relation.ReflTransGen NoiseEdit m n) :
    n.withoutLineNumbers = m.withoutLineNumbers := by
  induction h with
  | refl => rfl
  | tail _ hedit ih => exact hedit.withoutLineNumbers_eq.trans ih

theorem anchors_relabel : (m.relabel f).anchors = m.anchors.map f := by
  have hblocks (block : TryCatchBlock) : (block.relabel f).labels = block.labels.map f := rfl
  have hvariables (v : LocalVariable) : (v.relabel f).labels = v.labels.map f := rfl
  have huses (use : LocalVariableAnnotationUse) : (use.relabel f).labels = use.labels.map f := by
    simp [LocalVariableAnnotationUse.relabel, LocalVariableAnnotationUse.labels]
  have hpresent {α : Type} (g : α → α) (table : Option (List α)) :
      (table.map (List.map g)).getD [] = (table.getD []).map g := by
    cases table <;> rfl
  simp only [anchors, relabel, List.map_append, instructionAnchors_relabel, hpresent,
    flatMap_labels_map hblocks, flatMap_labels_map hvariables, flatMap_labels_map huses]

theorem anchors_withoutLineNumbers : m.withoutLineNumbers.anchors = m.anchors := by
  rw [anchors, withoutLineNumbers, instructionAnchors_withoutLineNumbers, anchors]

theorem mem_labels_of_withoutLineNumbers {l : Label} (h : l ∈ m.withoutLineNumbers.labels) :
    l ∈ m.labels := by
  rw [labels, anchors_withoutLineNumbers] at h
  rcases List.mem_append.mp h with h | h
  · obtain ⟨i, hi, hl⟩ := List.mem_flatMap.mp h
    exact mem_labels_of_instruction (List.mem_of_mem_filter hi) hl
  · exact List.mem_append_right _ h

/-- Line numbers are told apart from the rest whatever the labels are. -/
theorem withoutLineNumbers_relabel (hf : Set.InjOn f {l | l ∈ m.labels}) :
    (m.relabel f).withoutLineNumbers = m.withoutLineNumbers.relabel f := by
  have hkept (i : Instruction) (hi : i ∈ m.instructions) :
      (i.relabel f).isKept (m.anchors.map f) = i.isKept m.anchors := by
    refine Instruction.isKept_relabel fun l hl => ?_
    have hm : l ∈ m.labels := mem_labels_of_placed (List.mem_filterMap.mpr ⟨i, hi, hl⟩)
    constructor
    · intro h
      obtain ⟨l', hl', heq⟩ := List.mem_map.mp h
      rwa [← hf (List.mem_append_right _ hl') hm heq]
    · exact List.mem_map_of_mem
  have hinstructions : ClassMatch.withoutLineNumbers (m.anchors.map f)
        (m.instructions.map (Instruction.relabel f)) =
      (ClassMatch.withoutLineNumbers m.anchors m.instructions).map (Instruction.relabel f) := by
    rw [ClassMatch.withoutLineNumbers, List.filter_map, ClassMatch.withoutLineNumbers]
    exact congrArg _ (List.filter_congr hkept)
  rw [withoutLineNumbers, anchors_relabel, relabel, hinstructions]
  rfl

/-- A method is equal to what it becomes when its labels are replaced by fresh ones. -/
theorem compareViews_relabel (hfixed : ctx.fixed = false) (hnone : ∀ l, ctx.indices l = none)
    (hf : Set.InjOn f {l | l ∈ m.labels}) (hfresh : ∀ l ∈ m.labels, f l ∉ m.labels) :
    compareViews ctx m (m.relabel f) = .eq := by
  obtain ⟨hid, hmap⟩ := Context.matches_relabel hfixed hnone
    (fun l => mem_labels_of_placed) hf hfresh
  have hbodies := compareBodies_relabel hid hmap
  rw [relabel_id] at hbodies
  -- Under its own ordinals, which both sides match, the method is compared with itself.
  have hself : compareResolved ctx { ctx with indices := ordinals m.instructions } m m = .eq :=
    ReflCmp.compare_self
  rw [← hself, compareResolved, ← hbodies]
  rfl

/-- While line numbers are ignored, a method passes against any that arises from it by replacing
its labels and by editing what only line numbers need, and the other way round. -/
theorem passes_assertMethod_of_noise {setup : Setup}
    (ho : setup.options.contains .ignoreLineNumbers = true) (hi : setup.indices = none)
    {m n : Method} {f : Label → Label} (hf : Set.InjOn f {l | l ∈ m.labels})
    (hfresh : ∀ l ∈ m.labels, f l ∉ m.labels)
    (hedits : Relation.ReflTransGen NoiseEdit (m.relabel f) n) :
    (assertNode .method setup none m n).passes = true ∧
      (assertNode .method setup none n m).passes = true := by
  have hview := Context.view_eq_withoutLineNumbers (show setup.context.has _ = true from ho)
  -- Edited or not, the other method is compared as the renaming of what is left of the first one.
  have hn : n.withoutLineNumbers = m.withoutLineNumbers.relabel f :=
    (withoutLineNumbers_eq_of_edits hedits).trans (withoutLineNumbers_relabel hf)
  have hsub (l : Label) (hl : l ∈ m.withoutLineNumbers.labels) : l ∈ m.labels :=
    mem_labels_of_withoutLineNumbers hl
  have hfresh' (l : Label) (hl : l ∈ m.withoutLineNumbers.labels) :
      f l ∉ m.withoutLineNumbers.labels := fun h => hfresh l (hsub l hl) (hsub (f l) h)
  have heq : m.compare setup.context n = .eq := by
    rw [Method.compare, hview, hview, hn]
    exact compareViews_relabel (Setup.context_fixed hi) (Setup.context_indices hi)
      (hf.mono hsub) hfresh'
  have hplaced : PlacedAlike (setup.context.view m).instructions
      (setup.context.view n).instructions := by
    rw [hview, hview, hn]
    intro l hl hl'
    rw [relabel, placedLabels_relabel] at hl'
    obtain ⟨l', hplaced, rfl⟩ := List.mem_map.mp hl'
    exact absurd (mem_labels_of_placed hl) (hfresh' l' (mem_labels_of_placed hplaced))
  rw [passes_assertMethod, passes_assertMethod, compare_swap (.inr hplaced), heq]
  exact ⟨rfl, rfl⟩

/-- A line number goes with its label, and a label comes that is not used at all. -/
theorem passes_assertMethod_of_loop :
    (assertNode .method { Setup.plain with options := .ofList [.ignoreLineNumbers] } none
      (bare "m" "()V" [.label ⟨0⟩, .lineNumber 3 ⟨0⟩, .label ⟨1⟩, .jump 167 ⟨1⟩])
      (bare "m" "()V" [.label ⟨6⟩, .jump 167 ⟨6⟩, .label ⟨9⟩])).passes = true ∧
    (assertNode .method { Setup.plain with options := .ofList [.ignoreLineNumbers] } none
      (bare "m" "()V" [.label ⟨6⟩, .jump 167 ⟨6⟩, .label ⟨9⟩])
      (bare "m" "()V" [.label ⟨0⟩, .lineNumber 3 ⟨0⟩, .label ⟨1⟩, .jump 167 ⟨1⟩])).passes =
        true := by
  let renamed := bare "m" "()V" [.label ⟨5⟩, .lineNumber 3 ⟨5⟩, .label ⟨6⟩, .jump 167 ⟨6⟩]
  let unnumbered := bare "m" "()V" [.label ⟨5⟩, .label ⟨6⟩, .jump 167 ⟨6⟩]
  let loop := bare "m" "()V" [.label ⟨6⟩, .jump 167 ⟨6⟩]
  have hfirst : NoiseEdit renamed unnumbered :=
    .delete [.label ⟨5⟩] _ _ rfl (.lineNumber 3 ⟨5⟩)
  have hsecond : NoiseEdit unnumbered loop := .delete [] _ (.label ⟨5⟩) rfl (.label (by decide))
  have hthird : NoiseEdit loop (bare "m" "()V" [.label ⟨6⟩, .jump 167 ⟨6⟩, .label ⟨9⟩]) :=
    .insert [.label ⟨6⟩, .jump 167 ⟨6⟩] [] (.label ⟨9⟩) rfl (.label (by decide))
  refine passes_assertMethod_of_noise rfl rfl (f := fun l => ⟨l.id + 5⟩) ?_ (by decide)
    (((Relation.ReflTransGen.single hfirst).tail hsecond).tail hthird)
  exact fun ⟨_⟩ _ ⟨_⟩ _ h => by simpa using h

end Method

end ClassMatch
