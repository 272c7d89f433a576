import ClassMatch.Proofs.Alike.Annotations
import ClassMatch.Proofs.Label.Relabelling

/-!
When instructions and what belongs to them say the same, given when labels do: everything but labels
is identical, and labels in the same place are the same. Without options, this is when their orders
find them equal, labels being the same when they have the same index.
-/
namespace ClassMatch

open Std

variable {same same' : Label → Label → Prop} {ctx : Context}

/-- The context knows the labels by the same index, or knows neither of them. -/
def Context.SameIndex (ctx : Context) (l m : Label) : Prop := ctx.indices l = ctx.indices m

theorem Label.compare_eq_eq {l m : Label} : l.compare ctx m = .eq ↔ ctx.SameIndex l m := by
  rw [Label.compare, LawfulEqCmp.compare_eq_iff_eq, Context.SameIndex]

theorem compareLabels_eq_eq {ls ms : List Label} :
    compareLists (Label.compare ctx) ls ms = .eq ↔ List.Forall₂ ctx.SameIndex ls ms := by
  simp only [compareLists_eq_eq, Label.compare_eq_eq]

theorem FrameKind.rank_injective : Function.Injective FrameKind.rank := by
  intro a b h
  cases a <;> cases b <;> first | rfl | simp [rank] at h

namespace FrameValue

inductive Alike (same : Label → Label → Prop) : FrameValue → FrameValue → Prop
  | refl {value : FrameValue} (h : value.label? = none) : Alike same value value
  | uninitialized {l m : Label} (h : same l m) : Alike same (uninitialized l) (uninitialized m)

theorem compare_eq_eq {a b : FrameValue} : a.compare ctx b = .eq ↔ a.Alike ctx.SameIndex b := by
  constructor
  · intro h
    cases a with
    | uninitialized l => cases b with
      | uninitialized m => exact .uninitialized (Label.compare_eq_eq.mp h)
      | _ => simp [compare, rank] at h
    | _ =>
      cases b <;> simp_all [compare, rank]
      exact .refl rfl
  · rintro (⟨h⟩ | ⟨h⟩)
    · exact ReflCmp.compare_self
    · exact Label.compare_eq_eq.mpr h

theorem Alike.imp {a b : FrameValue} (h : ∀ l ∈ a.label?, ∀ m ∈ b.label?, same l m → same' l m)
    (hab : a.Alike same b) : a.Alike same' b := by
  cases hab with
  | refl hnone => exact .refl hnone
  | uninitialized hlm => exact .uninitialized (h _ rfl _ rfl hlm)

theorem Alike.label? {a b : FrameValue} (h : a.Alike same b) :
    Option.Rel same a.label? b.label? := by
  cases h with
  | refl hnone =>
    rw [hnone]
    exact .none
  | uninitialized h => exact .some h

theorem relabel_of_label?_eq_none (f : Label → Label) {value : FrameValue}
    (h : value.label? = none) : value.relabel f = value := by
  cases value with
  | uninitialized => simp [label?] at h
  | _ => rfl

theorem relabel_eq_of_alike {f : Label → Label} {a b : FrameValue}
    (h : a.Alike (fun l m => f l = m) b) : a.relabel f = b := by
  cases h with
  | refl h => exact relabel_of_label?_eq_none f h
  | uninitialized h => rw [relabel, h]

theorem compareFrameValues_eq_eq {as bs : List FrameValue} :
    compareLists (FrameValue.compare ctx) as bs = .eq ↔
      List.Forall₂ (Alike ctx.SameIndex) as bs := by
  simp only [compareLists_eq_eq, compare_eq_eq]

end FrameValue

namespace Instruction

/-- Instructions without labels are alike only if they are the same. -/
inductive Alike (same : Label → Label → Prop) : Instruction → Instruction → Prop
  | refl {i : Instruction} (h : i.labels = []) : Alike same i i
  | jump {opcode : UInt8} {l m : Label} (h : same l m) :
      Alike same (jump opcode l) (jump opcode m)
  | label {l m : Label} (h : same l m) : Alike same (label l) (label m)
  | tableSwitch {min max : Int32} {l m : Label} {ls ms : List Label} (h : same l m)
      (hs : List.Forall₂ same ls ms) :
      Alike same (tableSwitch min max l ls) (tableSwitch min max m ms)
  | lookupSwitch {l m : Label} {keys : List Int32} {ls ms : List Label} (h : same l m)
      (hs : List.Forall₂ same ls ms) :
      Alike same (lookupSwitch l keys ls) (lookupSwitch m keys ms)
  | frame {kind : FrameKind} {locals locals' stack stack' : List FrameValue}
      (hlocals : List.Forall₂ (FrameValue.Alike same) locals locals')
      (hstack : List.Forall₂ (FrameValue.Alike same) stack stack') :
      Alike same (frame kind locals stack) (frame kind locals' stack')
  | lineNumber {line : UInt32} {l m : Label} (h : same l m) :
      Alike same (lineNumber line l) (lineNumber line m)

theorem compare_eq_eq_iff {i j : Instruction} :
    i.compare ctx j = .eq ↔
      i.rank = j.rank ∧ i.opcode? = j.opcode? ∧ i.compareOperands ctx j = .eq := by
  simp [compare]

theorem compare_eq_eq {i j : Instruction} : i.compare ctx j = .eq ↔ i.Alike ctx.SameIndex j := by
  constructor
  · intro h
    obtain ⟨hrank, hop, hoperands⟩ := compare_eq_eq_iff.mp h
    cases i with
    | jump op l => cases j with
      | jump op' m =>
        cases hop
        exact .jump (Label.compare_eq_eq.mp hoperands)
      | _ => simp [rank] at hrank
    | label l => cases j with
      | label m => exact .label (Label.compare_eq_eq.mp hoperands)
      | _ => simp [rank] at hrank
    | lineNumber line l => cases j with
      | lineNumber line' m =>
        simp only [compareOperands, Ordering.then_eq_eq, LawfulEqCmp.compare_eq_iff_eq,
          Label.compare_eq_eq] at hoperands
        obtain ⟨rfl, hl⟩ := hoperands
        exact .lineNumber hl
      | _ => simp [rank] at hrank
    | tableSwitch min max l ls => cases j with
      | tableSwitch min' max' m ms =>
        simp only [compareOperands, Ordering.then_eq_eq, LawfulEqCmp.compare_eq_iff_eq,
          Label.compare_eq_eq, compareLabels_eq_eq] at hoperands
        obtain ⟨rfl, rfl, hl, hls⟩ := hoperands
        exact .tableSwitch hl hls
      | _ => simp [rank] at hrank
    | lookupSwitch l keys ls => cases j with
      | lookupSwitch m keys' ms =>
        simp only [compareOperands, Ordering.then_eq_eq, LawfulEqCmp.compare_eq_iff_eq,
          Label.compare_eq_eq, compareLabels_eq_eq] at hoperands
        obtain ⟨hl, rfl, hls⟩ := hoperands
        exact .lookupSwitch hl hls
      | _ => simp [rank] at hrank
    | frame kind locals stack => cases j with
      | frame kind' locals' stack' =>
        simp only [compareOperands, Ordering.then_eq_eq, LawfulEqCmp.compare_eq_iff_eq,
          FrameValue.compareFrameValues_eq_eq] at hoperands
        obtain ⟨hkind, hlocals, hstack⟩ := hoperands
        obtain rfl := FrameKind.rank_injective hkind
        exact .frame hlocals hstack
      | _ => simp [rank] at hrank
    | _ =>
      cases j <;> simp_all [rank, opcode?, compareOperands, compareLists_eq_eq]
      exact .refl rfl
  · intro h
    refine compare_eq_eq_iff.mpr ?_
    cases h with
    | refl h => exact compare_eq_eq_iff.mp ReflCmp.compare_self
    | jump h => exact ⟨rfl, rfl, Label.compare_eq_eq.mpr h⟩
    | label h => exact ⟨rfl, rfl, Label.compare_eq_eq.mpr h⟩
    | tableSwitch h hs =>
      simp [rank, opcode?, compareOperands, Label.compare_eq_eq, compareLabels_eq_eq, h, hs]
    | lookupSwitch h hs =>
      simp [rank, opcode?, compareOperands, Label.compare_eq_eq, compareLabels_eq_eq, h, hs]
    | frame hlocals hstack =>
      simp [rank, opcode?, compareOperands, FrameValue.compareFrameValues_eq_eq, hlocals, hstack]
    | lineNumber h => simp [rank, opcode?, compareOperands, Label.compare_eq_eq, h]

/-- Only what is said of the labels of the two instructions makes them alike. -/
theorem Alike.imp {i j : Instruction}
    (h : ∀ l ∈ i.labels, ∀ m ∈ j.labels, same l m → same' l m) (hij : i.Alike same j) :
    i.Alike same' j := by
  have hlabels {l m : Label} {ls ms : List Label}
      (h : ∀ l' ∈ l :: ls, ∀ m' ∈ m :: ms, same l' m' → same' l' m')
      (hls : List.Forall₂ same ls ms) : List.Forall₂ same' ls ms :=
    forall₂_imp_of_mem (fun l' hl m' hm => h l' (by simp [hl]) m' (by simp [hm])) hls
  cases hij with
  | refl hnone => exact .refl hnone
  | jump hs => exact .jump (h _ (by simp [labels]) _ (by simp [labels]) hs)
  | label hs => exact .label (h _ (by simp [labels]) _ (by simp [labels]) hs)
  | tableSwitch hs hls =>
    exact .tableSwitch (h _ (by simp [labels]) _ (by simp [labels]) hs) (hlabels h hls)
  | lookupSwitch hs hls =>
    exact .lookupSwitch (h _ (by simp [labels]) _ (by simp [labels]) hs) (hlabels h hls)
  | frame hlocals hstack =>
    simp only [labels, List.mem_filterMap, List.mem_append] at h
    refine .frame (forall₂_imp_of_mem (fun v hv w hw => ?_) hlocals)
      (forall₂_imp_of_mem (fun v hv w hw => ?_) hstack)
    · exact FrameValue.Alike.imp fun l hl m hm => h l ⟨v, .inl hv, hl⟩ m ⟨w, .inl hw, hm⟩
    · exact FrameValue.Alike.imp fun l hl m hm => h l ⟨v, .inr hv, hl⟩ m ⟨w, .inr hw, hm⟩
  | lineNumber hs => exact .lineNumber (h _ (by simp [labels]) _ (by simp [labels]) hs)

theorem Alike.labels {i j : Instruction} (h : i.Alike same j) :
    List.Forall₂ same i.labels j.labels := by
  cases h with
  | refl hnone =>
    rw [hnone]
    exact .nil
  | jump h => exact .cons h .nil
  | label h => exact .cons h .nil
  | tableSwitch h hs => exact .cons h hs
  | lookupSwitch h hs => exact .cons h hs
  | frame hlocals hstack =>
    exact List.rel_filterMap (fun _ _ h => FrameValue.Alike.label? h)
      (List.rel_append hlocals hstack)
  | lineNumber h => exact .cons h .nil

theorem relabel_of_labels_eq_nil (f : Label → Label) {i : Instruction} (h : i.labels = []) :
    i.relabel f = i := by
  cases i with
  | frame kind locals stack =>
    simp only [Instruction.labels, List.filterMap_eq_nil_iff, List.mem_append] at h
    have hvalues (vs : List FrameValue) (hvs : ∀ v ∈ vs, v.label? = none) :
        vs.map (FrameValue.relabel f) = vs :=
      (List.map_congr_left fun v hv => FrameValue.relabel_of_label?_eq_none f (hvs v hv)).trans
        (List.map_id vs)
    rw [relabel, hvalues locals fun v hv => h v (.inl hv), hvalues stack fun v hv => h v (.inr hv)]
  | _ => first | rfl | simp [Instruction.labels] at h

/-- Instructions that are alike when labels stand for their images are the same up to these. -/
theorem relabel_eq_of_alike {f : Label → Label} {i j : Instruction}
    (h : i.Alike (fun l m => f l = m) j) : i.relabel f = j := by
  have hvalues {vs ws : List FrameValue}
      (h : List.Forall₂ (FrameValue.Alike fun l m => f l = m) vs ws) :
      vs.map (FrameValue.relabel f) = ws :=
    map_eq_iff_forall₂.mpr (h.imp fun _ _ => FrameValue.relabel_eq_of_alike)
  cases h with
  | refl hnone => exact relabel_of_labels_eq_nil f hnone
  | jump h => rw [relabel, h]
  | label h => rw [relabel, h]
  | tableSwitch h hs => rw [relabel, h, map_eq_iff_forall₂.mpr hs]
  | lookupSwitch h hs => rw [relabel, h, map_eq_iff_forall₂.mpr hs]
  | frame hlocals hstack => rw [relabel, hvalues hlocals, hvalues hstack]
  | lineNumber h => rw [relabel, h]

end Instruction

/-- Blocks that guard the same range with the same handler. -/
@[mk_iff]
structure TryCatchBlock.Alike (same : Label → Label → Prop) (a b : TryCatchBlock) : Prop where
  start : same a.start b.start
  stop : same a.stop b.stop
  handler : same a.handler b.handler
  catchType : a.catchType = b.catchType
  visibleTypeAnnotations :
    Option.Rel (PairUp TypeAnnotationUse.Alike) a.visibleTypeAnnotations b.visibleTypeAnnotations
  invisibleTypeAnnotations :
    Option.Rel (PairUp TypeAnnotationUse.Alike) a.invisibleTypeAnnotations
      b.invisibleTypeAnnotations

/-- Variables with the same name and type that live in the same slot and range. -/
@[mk_iff]
structure LocalVariable.Alike (same : Label → Label → Prop) (a b : LocalVariable) : Prop where
  name : a.name = b.name
  descriptor : a.descriptor = b.descriptor
  signature : a.signature = b.signature
  start : same a.start b.start
  stop : same a.stop b.stop
  slot : a.slot = b.slot

/-- Type annotations on a variable that lives in the same slots and ranges. -/
@[mk_iff]
structure LocalVariableAnnotationUse.Alike (same : Label → Label → Prop)
    (a b : LocalVariableAnnotationUse) : Prop where
  typeUse : a.typeUse.Alike b.typeUse
  starts : List.Forall₂ same a.starts b.starts
  ends : List.Forall₂ same a.ends b.ends
  slots : a.slots = b.slots

theorem TryCatchBlock.compare_eq_eq (h : ctx.options = .empty) {a b : TryCatchBlock} :
    a.compare ctx b = .eq ↔ a.Alike ctx.SameIndex b := by
  simp only [TryCatchBlock.compare, Ordering.then_eq_eq, unless_eq_eq, Context.has_eq_false h,
    Bool.false_eq_true, false_or, Label.compare_eq_eq, LawfulEqCmp.compare_eq_iff_eq,
    compareOptional_eq_eq, compareUnordered_eq_eq,
    TypeAnnotationUse.compare_eq_eq (Context.has_eq_false h _), alike_iff]

theorem LocalVariable.compare_eq_eq {a b : LocalVariable} :
    a.compare ctx b = .eq ↔ a.Alike ctx.SameIndex b := by
  simp only [LocalVariable.compare, Ordering.then_eq_eq, Label.compare_eq_eq,
    LawfulEqCmp.compare_eq_iff_eq, alike_iff]

theorem LocalVariableAnnotationUse.compare_eq_eq (h : ctx.options = .empty)
    {a b : LocalVariableAnnotationUse} : a.compare ctx b = .eq ↔ a.Alike ctx.SameIndex b := by
  simp only [LocalVariableAnnotationUse.compare, Ordering.then_eq_eq, compareLabels_eq_eq,
    TypeAnnotationUse.compare_eq_eq (Context.has_eq_false h _), LawfulEqCmp.compare_eq_iff_eq,
    alike_iff]

theorem TryCatchBlock.Alike.imp {a b : TryCatchBlock}
    (h : ∀ l ∈ a.labels, ∀ m ∈ b.labels, same l m → same' l m) (hab : a.Alike same b) :
    a.Alike same' b :=
  { hab with
    start := h _ (by simp [labels]) _ (by simp [labels]) hab.start
    stop := h _ (by simp [labels]) _ (by simp [labels]) hab.stop
    handler := h _ (by simp [labels]) _ (by simp [labels]) hab.handler }

theorem LocalVariable.Alike.imp {a b : LocalVariable}
    (h : ∀ l ∈ a.labels, ∀ m ∈ b.labels, same l m → same' l m) (hab : a.Alike same b) :
    a.Alike same' b :=
  { hab with
    start := h _ (by simp [labels]) _ (by simp [labels]) hab.start
    stop := h _ (by simp [labels]) _ (by simp [labels]) hab.stop }

theorem LocalVariableAnnotationUse.Alike.imp {a b : LocalVariableAnnotationUse}
    (h : ∀ l ∈ a.labels, ∀ m ∈ b.labels, same l m → same' l m) (hab : a.Alike same b) :
    a.Alike same' b :=
  { hab with
    starts := forall₂_imp_of_mem (fun l hl m hm =>
      h l (List.mem_append_left _ hl) m (List.mem_append_left _ hm)) hab.starts
    ends := forall₂_imp_of_mem (fun l hl m hm =>
      h l (List.mem_append_right _ hl) m (List.mem_append_right _ hm)) hab.ends }

end ClassMatch
