import ClassMatch.Proofs.Alike.Code
import ClassMatch.Proofs.Bare
import ClassMatch.Proofs.Check.Basic
import ClassMatch.Proofs.Label.Ordinals
import ClassMatch.Render.Declaration

/-!
Texts show labels by name and nothing else of them. Instructions that are alike, labels being the
same when they have the same name, have the same text. So have lists that pass their check, and
methods and classes before and after a renaming of labels that only their own places name.
-/
namespace ClassMatch

variable {names names' : LabelNames} {f : Label → Label} {ctx : Context}

theorem map_eq_map_of_forall₂ {α β γ : Type} {r : α → β → Prop} {g : α → γ} {g' : β → γ}
    (h : ∀ a b, r a b → g a = g' b) {as : List α} {bs : List β} (hs : List.Forall₂ r as bs) :
    as.map g = bs.map g' := by
  rw [← List.forall₂_eq_eq_eq, List.forall₂_map_left_iff, List.forall₂_map_right_iff]
  exact hs.imp h

/-- The one name of the first label under the first lookup and of the second under the second. -/
def SameName (names names' : LabelNames) (l m : Label) : Prop := names.nameOf l = names'.nameOf m

theorem map_nameOf_eq {ls ms : List Label} (h : List.Forall₂ (SameName names names') ls ms) :
    ls.map names.nameOf = ms.map names'.nameOf :=
  map_eq_map_of_forall₂ (fun _ _ => id) h

namespace FrameValue

theorem Alike.text_eq {a b : FrameValue} (h : a.Alike (SameName names names') b) :
    a.text names = b.text names' := by
  cases h with
  | refl hnone =>
    cases a with
    | uninitialized => cases hnone
    | _ => rfl
  | uninitialized h => exact h

theorem alike_relabel {same : Label → Label → Prop} {value : FrameValue}
    (h : ∀ l ∈ value.label?, same l (f l)) : value.Alike same (value.relabel f) := by
  cases value with
  | uninitialized l => exact .uninitialized (h l rfl)
  | _ => exact .refl rfl

end FrameValue

theorem frameText_eq {kind : FrameKind} {locals locals' stack stack' : List FrameValue}
    (hlocals : List.Forall₂ (FrameValue.Alike (SameName names names')) locals locals')
    (hstack : List.Forall₂ (FrameValue.Alike (SameName names names')) stack stack') :
    frameText names kind locals stack = frameText names' kind locals' stack' := by
  have hvalues {vs ws : List FrameValue}
      (h : List.Forall₂ (FrameValue.Alike (SameName names names')) vs ws) :
      vs.map (FrameValue.text names) = ws.map (FrameValue.text names') :=
    map_eq_map_of_forall₂ (fun _ _ hvw => hvw.text_eq) h
  unfold frameText
  simp only [hvalues hlocals, hvalues hstack, hlocals.length_eq]

/-- The text of a switch takes from its cases the keys and the names of the targets. -/
theorem switchText_eq {cases cases' : List (Int × Label)} {l m : Label}
    (hcases : cases.map (Prod.map id names.nameOf) = cases'.map (Prod.map id names'.nameOf))
    (hdefault : SameName names names' l m) :
    switchText names cases l = switchText names' cases' m := by
  have hnames (names : LabelNames) (cases : List (Int × Label)) (l : Label) :
      switchText names cases l = ", ".intercalate ((cases.map (Prod.map id names.nameOf)).map
        (fun entry => s!"{entry.1}: {entry.2}") ++ [s!"default: {names.nameOf l}"]) := by
    rw [List.map_map]
    rfl
  rw [hnames, hnames, hcases, hdefault]

theorem map_tableCases {g : Label → String} {min : Int32} {targets : List Label} :
    (targets.zipIdx.map fun (target, i) => (min.toInt + i, target)).map (Prod.map id g) =
      (targets.map g).zipIdx.map fun (name, i) => (min.toInt + i, name) := by
  rw [List.zipIdx_map, List.map_map, List.map_map]
  rfl

theorem map_lookupCases {g : Label → String} {keys : List Int32} {targets : List Label} :
    ((keys.zip targets).map fun (key, target) => (key.toInt, target)).map (Prod.map id g) =
      (keys.zip (targets.map g)).map fun (key, name) => (key.toInt, name) := by
  rw [List.zip_map_right, List.map_map, List.map_map]
  rfl

namespace Instruction

theorem Alike.operandText_eq {i j : Instruction} (h : i.Alike (SameName names names') j) :
    i.operandText names = j.operandText names' := by
  cases h with
  | refl hnone =>
    cases i with
    | frame kind locals stack =>
      have hvalues (vs : List FrameValue) (hvs : ∀ v ∈ vs, v.label? = none) :
          List.Forall₂ (FrameValue.Alike (SameName names names')) vs vs :=
        List.forall₂_same.mpr fun v hv => .refl (hvs v hv)
      simp only [Instruction.labels, List.filterMap_eq_nil_iff, List.mem_append] at hnone
      exact frameText_eq (hvalues locals fun v hv => hnone v (.inl hv))
        (hvalues stack fun v hv => hnone v (.inr hv))
    | jump | label | tableSwitch | lookupSwitch | lineNumber => cases hnone
    | _ => rfl
  | jump h => exact h
  | label h => exact h
  | tableSwitch h hs =>
    refine switchText_eq ?_ h
    rw [map_tableCases, map_tableCases, map_nameOf_eq hs]
  | lookupSwitch h hs =>
    refine switchText_eq ?_ h
    rw [map_lookupCases, map_lookupCases, map_nameOf_eq hs]
  | frame hlocals hstack => exact frameText_eq hlocals hstack
  | @lineNumber line l m h => exact congrArg (fun name => s!"LINENUMBER {line} {name}") h

theorem Alike.text_eq {i j : Instruction} (h : i.Alike (SameName names names') j) :
    i.text names = j.text names' := by
  have hoperands := h.operandText_eq
  cases h with
  | refl =>
    cases i with
    | plain => rfl
    | label | frame | lineNumber => exact hoperands
    | _ => exact congrArg (Opcode.mnemonic _ ++ " " ++ ·) hoperands
  | label | frame | lineNumber => exact hoperands
  | jump | tableSwitch | lookupSwitch =>
    exact congrArg (Opcode.mnemonic _ ++ " " ++ ·) hoperands

theorem Alike.placed?_isSome {same : Label → Label → Prop} {i j : Instruction}
    (h : i.Alike same j) : i.placed?.isSome = j.placed?.isSome := by
  cases h <;> rfl

theorem alike_relabel {same : Label → Label → Prop} {i : Instruction}
    (h : ∀ l ∈ i.labels, same l (f l)) : i.Alike same (i.relabel f) := by
  have hvalues (vs : List FrameValue) (hvs : ∀ l ∈ vs.filterMap FrameValue.label?, same l (f l)) :
      List.Forall₂ (FrameValue.Alike same) vs (vs.map (FrameValue.relabel f)) :=
    forall₂_map fun v hv => FrameValue.alike_relabel fun l hl =>
      hvs l (List.mem_filterMap.mpr ⟨v, hv, hl⟩)
  cases i with
  | jump opcode l => exact .jump (h l (by simp [labels]))
  | label l => exact .label (h l (by simp [labels]))
  | tableSwitch min max l ls =>
    exact .tableSwitch (h l (by simp [labels]))
      (forall₂_map fun m hm => h m (List.mem_cons_of_mem l hm))
  | lookupSwitch l keys ls =>
    exact .lookupSwitch (h l (by simp [labels]))
      (forall₂_map fun m hm => h m (List.mem_cons_of_mem l hm))
  | frame kind locals stack =>
    simp only [labels, List.filterMap_append, List.mem_append] at h
    exact .frame (hvalues locals fun l hl => h l (.inl hl))
      (hvalues stack fun l hl => h l (.inr hl))
  | lineNumber line l => exact .lineNumber (h l (by simp [labels]))
  | _ => exact .refl rfl

end Instruction

theorem instructionsText_eq {as bs : List Instruction}
    (h : List.Forall₂ (Instruction.Alike (SameName names names')) as bs) :
    instructionsText names as = instructionsText names' bs := by
  refine congrArg ("\n".intercalate ·) (map_eq_map_of_forall₂ (fun i j hij => ?_) h)
  rw [hij.text_eq, hij.placed?_isSome]

/-- Where the caller gives no names, labels with the same index have the same name. -/
theorem Context.SameIndex.sameName (hgiven : ∀ l, ctx.givenNames l = none) {l m : Label}
    (hl : (ctx.indices l).isSome) (h : ctx.SameIndex l m) : SameName ctx.names ctx.names l m := by
  obtain ⟨index, hindex⟩ := Option.isSome_iff_exists.mp hl
  have hm : ctx.indices m = some index := h.symm.trans hindex
  simp only [SameName, LabelNames.nameOf, Context.names, LabelNames.merge, LabelNames.ofIndices,
    hgiven, hindex, hm]
  rfl

/-- Where the caller gives no names and all labels of a list have indices, it has the same text as
any list that it passes its check against. -/
theorem instructionsText_eq_of_passes (hgiven : ∀ l, ctx.givenNames l = none)
    {as bs : List Instruction} (has : ∀ i ∈ as, ∀ l ∈ i.labels, (ctx.indices l).isSome)
    (trail : Trail) (h : ((checkInstructions ctx as bs).run trail).passes = true) :
    instructionsText ctx.names as = instructionsText ctx.names bs := by
  rw [passes_checkInstructions, compareLists_eq_eq] at h
  refine instructionsText_eq (forall₂_imp_of_mem (fun i hi j _ hij => ?_) h)
  refine (Instruction.compare_eq_eq.mp hij).imp fun l hl m _ hlm => ?_
  exact hlm.sameName hgiven (has i hi l hl)

/-- A loop that is entered at its second label has one text, whatever its labels are. -/
theorem instructionsText_of_loops :
    let loop : List Instruction := [.jump 167 ⟨1⟩, .label ⟨0⟩, .iinc 0 1, .label ⟨1⟩, .jump 153 ⟨0⟩]
    let other : List Instruction :=
      [.jump 167 ⟨7⟩, .label ⟨8⟩, .iinc 0 1, .label ⟨7⟩, .jump 153 ⟨8⟩]
    let ctx := Context.plain.forInstructions loop other
    ((checkInstructions ctx loop other).run .empty).passes = true ∧
      instructionsText ctx.names loop = instructionsText ctx.names other :=
  ⟨by decide, instructionsText_eq_of_passes (fun _ => rfl) (by decide) .empty (by decide)⟩

/-- Each of the labels keeps the name it has when it is renamed. -/
def KeepsNames (names names' : LabelNames) (f : Label → Label) (labels : List Label) : Prop :=
  ∀ l ∈ labels, SameName names names' l (f l)

theorem KeepsNames.subset {labels labels' : List Label} (h : KeepsNames names names' f labels)
    (hsub : ∀ l ∈ labels', l ∈ labels) : KeepsNames names names' f labels' :=
  fun l hl => h l (hsub l hl)

theorem TryCatchBlock.text_relabel {block : TryCatchBlock}
    (h : KeepsNames names names' f block.labels) :
    (block.relabel f).text names' = block.text names := by
  have hstart : names.nameOf block.start = names'.nameOf (f block.start) :=
    h block.start (by simp [labels])
  have hstop : names.nameOf block.stop = names'.nameOf (f block.stop) :=
    h block.stop (by simp [labels])
  have hhandler : names.nameOf block.handler = names'.nameOf (f block.handler) :=
    h block.handler (by simp [labels])
  simp only [text, short, relabel]
  rw [← hstart, ← hstop, ← hhandler]

theorem LocalVariable.text_relabel {v : LocalVariable} (h : KeepsNames names names' f v.labels) :
    (v.relabel f).text names' = v.text names := by
  have hstart : names.nameOf v.start = names'.nameOf (f v.start) := h v.start (by simp [labels])
  have hstop : names.nameOf v.stop = names'.nameOf (f v.stop) := h v.stop (by simp [labels])
  simp only [text, short, relabel]
  rw [← hstart, ← hstop]

theorem LocalVariableAnnotationUse.text_relabel {use : LocalVariableAnnotationUse}
    (h : KeepsNames names names' f use.labels) :
    (use.relabel f).text names' = use.text names := by
  have hzip : (use.starts.map f).zip ((use.ends.map f).zip use.slots) =
      (use.starts.zip (use.ends.zip use.slots)).map (Prod.map f (Prod.map f id)) := by
    rw [List.zip_map_left, List.zip_map_left, List.zip_map_right, List.map_map]
    rfl
  have hranges : (use.relabel f).ranges names' = use.ranges names := by
    rw [ranges, relabel, hzip, List.map_map]
    refine congrArg (", ".intercalate ·) (List.map_congr_left ?_)
    rintro ⟨start, stop, slot⟩ hmem
    obtain ⟨hmem_start, hrest⟩ := List.of_mem_zip hmem
    obtain ⟨hmem_stop, -⟩ := List.of_mem_zip hrest
    have hstart : names.nameOf start = names'.nameOf (f start) :=
      h start (List.mem_append_left _ hmem_start)
    have hstop : names.nameOf stop = names'.nameOf (f stop) :=
      h stop (List.mem_append_right _ hmem_stop)
    simp only [Function.comp, Prod.map]
    rw [← hstart, ← hstop]
    rfl
  rw [text, hranges]
  rfl

/-- If each element of a list that may be missing keeps its text, so do all of them. -/
theorem texts_of_map {α : Type} {g : α → α} {text text' : α → String} {o : Option (List α)}
    (h : ∀ as, o = some as → ∀ a ∈ as, text' (g a) = text a) :
    ((o.map (List.map g)).getD []).map text' = (o.getD []).map text := by
  cases o with
  | none => rfl
  | some as =>
    simp only [Option.map_some, Option.getD_some, List.map_map]
    exact List.map_congr_left (h as rfl)

namespace Method

variable {m : Method}

theorem localVariableAnnotationComments_relabel {o : Option (List LocalVariableAnnotationUse)}
    (mark : String)
    (h : ∀ uses, o = some uses → ∀ use ∈ uses, KeepsNames names names' f use.labels) :
    localVariableAnnotationComments names' mark
        (o.map (List.map (LocalVariableAnnotationUse.relabel f))) =
      localVariableAnnotationComments names mark o :=
  texts_of_map fun uses hs use hu => by
    rw [LocalVariableAnnotationUse.text_relabel (h uses hs use hu)]

theorem comments_relabel (h : KeepsNames names names' f m.labels) :
    (m.relabel f).comments names' = m.comments names := by
  have hvariables : ((m.relabel f).localVariables.getD []).map
        (fun v => "Local variable: " ++ v.text names') =
      (m.localVariables.getD []).map fun v => "Local variable: " ++ v.text names :=
    texts_of_map fun vs hvs v hv => by
      rw [LocalVariable.text_relabel
        (h.subset fun l hl => mem_labels_of_localVariable hvs hv hl)]
  have hvisible := localVariableAnnotationComments_relabel "" fun uses hs use hu =>
    h.subset fun l hl => mem_labels_of_visibleUse hs hu hl
  have hinvisible := localVariableAnnotationComments_relabel " // invisible" fun uses hs use hu =>
    h.subset fun l hl => mem_labels_of_invisibleUse hs hu hl
  have hblocks : (m.relabel f).tryCatchBlocks.map (fun b => "Try catch block: " ++ b.text names') =
      m.tryCatchBlocks.map fun b => "Try catch block: " ++ b.text names := by
    rw [relabel, List.map_map]
    refine List.map_congr_left fun b hb => ?_
    rw [Function.comp, TryCatchBlock.text_relabel
      (h.subset fun l hl => mem_labels_of_tryCatchBlock hb hl)]
  rw [comments, hvariables, hblocks, relabel, hvisible, hinvisible]
  rfl

/-- The renaming takes different labels of the method to different ones. All of them are placed in
the method, and the lookup knows neither them nor what they are renamed to. -/
structure Renames (names : LabelNames) (f : Label → Label) (m : Method) : Prop where
  injOn : Set.InjOn f {l | l ∈ m.labels}
  placed : ∀ l ∈ m.labels, l ∈ placedLabels m.instructions
  unknown : ∀ l ∈ m.labels, names l = none
  renamed_unknown : ∀ l ∈ m.labels, names (f l) = none

/-- Labels are named by their places in the method, which are those of what they are renamed to. -/
theorem Renames.keepsNames (h : m.Renames names f) :
    KeepsNames (m.ownNames names) ((m.relabel f).ownNames names) f m.labels := by
  intro l hl
  obtain ⟨place, hplace⟩ :=
    Option.ne_none_iff_exists'.mp (mt ordinals_eq_none.mp (not_not_intro (h.placed l hl)))
  have hrenamed : ordinals (m.relabel f).instructions (f l) = some place :=
    (ordinals_relabel h.injOn (fun _ => mem_labels_of_placed) hl).trans hplace
  simp only [SameName, LabelNames.nameOf, ownNames, find_numberedMap, LabelNames.merge,
    LabelNames.ofIndices, h.unknown l hl, h.renamed_unknown l hl, hplace, hrenamed]
  rfl

theorem Renames.text_relabel (h : m.Renames names f) : (m.relabel f).text names = m.text names := by
  have hinstructions :
      instructionsText ((m.relabel f).ownNames names) (m.relabel f).instructions =
        instructionsText (m.ownNames names) m.instructions :=
    (instructionsText_eq (forall₂_map fun i hi => Instruction.alike_relabel fun l hl =>
      h.keepsNames l (mem_labels_of_instruction hi hl))).symm
  rw [text, text, hinstructions, comments_relabel h.keepsNames]
  rfl

end Method

/-- A method whose labels are all placed in it has the same text when its labels are renamed, and so
does a class when each of its methods is renamed in a way of its own. -/
theorem texts_of_renamed_methods (names : LabelNames) :
    (∀ (f : Label → Label) (m : Method), m.Renames names f →
      (m.relabel f).text names = m.text names) ∧
    ∀ (c : ClassFile) (methods : List Method),
      List.Forall₂ (ComesOf Method.relabel (Method.Renames names)) c.methods methods →
        ClassFile.text names { c with methods := methods } = c.text names := by
  refine ⟨fun f m h => h.text_relabel, fun c methods h => ?_⟩
  have htexts : c.methods.map (Method.text names) = methods.map (Method.text names) := by
    refine map_eq_map_of_forall₂ (fun m m' hm => ?_) h
    obtain ⟨f, hf, rfl⟩ := hm
    exact hf.text_relabel.symm
  have hlines (ms : List Method) : ms.flatMap (fun m => ClassFile.memberLines (m.text names)) =
      (ms.map (Method.text names)).flatMap ClassFile.memberLines := by
    rw [List.flatMap_map]
  rw [ClassFile.text, hlines, ← htexts, ← hlines]
  rfl

/-- Two methods with a guarded loop each, at one label in both, which gets a name of its own in each
of them. -/
theorem text_of_renamed_loops :
    let names : LabelNames := fun l => if l = ⟨9⟩ then some "start" else none
    let loop (l : Label) (name : String) : Method :=
      { Method.bare name "()V" [.label l, .jump 167 l] with tryCatchBlocks := [.bare l] }
    ClassFile.text names (.bare "A" [] [loop ⟨1⟩ "m", loop ⟨5⟩ "n"]) =
      ClassFile.text names (.bare "A" [] [loop ⟨0⟩ "m", loop ⟨0⟩ "n"]) := by
  intro names loop
  have hrenames (n : Nat) (name : String) (hn : n < 9) :
      (loop ⟨0⟩ name).Renames names fun l => ⟨l.id + n⟩ := by
    have hlabel (l : Label) (hl : l ∈ (loop ⟨0⟩ name).labels) : l = ⟨0⟩ :=
      List.eq_of_mem_replicate (show l ∈ List.replicate 6 (Label.mk 0) from hl)
    refine ⟨fun l hl m hm _ => (hlabel l hl).trans (hlabel m hm).symm, fun l hl => ?_,
      fun l hl => ?_, fun l hl => ?_⟩
    all_goals obtain rfl := hlabel l hl
    · exact List.mem_cons_self
    · rfl
    · simp [names]
      omega
  exact (texts_of_renamed_methods names).2 (.bare "A" [] [loop ⟨0⟩ "m", loop ⟨0⟩ "n"]) _
    (.cons ⟨_, hrenames 1 "m" (by decide), rfl⟩ (.cons ⟨_, hrenames 5 "n" (by decide), rfl⟩ .nil))

end ClassMatch
