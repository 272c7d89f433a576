import ClassMatch.Order.Node
import ClassMatch.Proofs.Alike.Code
import ClassMatch.Proofs.Order.Declaration

/-!
Coarser contexts. A context that leaves out at least what another one does, and takes labels for the
same wherever that one does, finds equal whatever that one finds equal. Sorting is no obstacle: what
pairs up under the one context pairs up under the other, however the two sort.
-/
namespace ClassMatch

open Std

/-- The second context leaves out what the first one does, and of the labels in the two lists it
takes for the same those that the first one does. -/
structure Context.Coarsens (ctx ctx' : Context) (ls ms : List Label) : Prop where
  options : ∀ o, ctx.has o = true → ctx'.has o = true
  indices : ∀ l ∈ ls, ∀ m ∈ ms, ctx.SameIndex l m → ctx'.SameIndex l m

variable {ctx ctx' : Context}

theorem Context.has_forRanges (ctx : Context) (o : CheckOption) :
    ctx.forRanges.has o = ctx.has o := by
  unfold Context.forRanges
  split <;> rfl

namespace Context.Coarsens

theorem subset {ls ls' ms ms' : List Label} (h : ctx.Coarsens ctx' ls' ms')
    (hl : ∀ l ∈ ls, l ∈ ls') (hm : ∀ m ∈ ms, m ∈ ms') : ctx.Coarsens ctx' ls ms :=
  ⟨h.options, fun l hls m hms => h.indices l (hl l hls) m (hm m hms)⟩

/-- While line numbers are ignored, all labels that bound a range are the same. -/
theorem forRanges {ls ms : List Label} (h : ctx.Coarsens ctx' ls ms) :
    ctx.forRanges.Coarsens ctx'.forRanges ls ms := by
  refine ⟨fun o => ?_, fun l hl m hm hlm => ?_⟩
  · rw [has_forRanges, has_forRanges]
    exact h.options o
  · cases hline' : ctx'.has .ignoreLineNumbers with
    | true =>
      rw [Context.forRanges, hline']
      exact rfl
    | false =>
      have hline : ctx.has .ignoreLineNumbers = false := by
        by_contra hline
        rw [h.options _ (eq_true_of_ne_false hline)] at hline'
        exact absurd hline' (by decide)
      rw [Context.forRanges, hline] at hlm
      rw [Context.forRanges, hline']
      exact h.indices l hl m hm hlm

end Context.Coarsens

section Combinators

variable {α : Type} {cmp cmp' : α → α → Ordering}

theorem unless_mono {o : CheckOption} {order order' : Ordering}
    (ho : ctx.has o = true → ctx'.has o = true) (h : order = .eq → order' = .eq) :
    ctx.unless o order = .eq → ctx'.unless o order' = .eq := by
  rw [unless_eq_eq, unless_eq_eq]
  exact Or.imp ho h

theorem compareOptional_mono {o p : Option α}
    (h : ∀ a, o = some a → ∀ b, p = some b → cmp a b = .eq → cmp' a b = .eq) :
    compareOptional cmp o p = .eq → compareOptional cmp' o p = .eq := by
  cases o with
  | none => cases p <;> exact id
  | some a => cases p with
    | none => exact nofun
    | some b => exact h a rfl b rfl

theorem compareLists_mono {as bs : List α}
    (h : ∀ a ∈ as, ∀ b ∈ bs, cmp a b = .eq → cmp' a b = .eq) :
    compareLists cmp as bs = .eq → compareLists cmp' as bs = .eq := by
  rw [compareLists_eq_eq, compareLists_eq_eq]
  exact forall₂_imp_of_mem h

/-- Only the coarser comparator has to be a total preorder. -/
theorem compareUnordered_mono [TransCmp cmp'] {as bs : List α}
    (h : ∀ a ∈ as, ∀ b ∈ bs, cmp a b = .eq → cmp' a b = .eq)
    (hab : compareUnordered cmp as bs = .eq) : compareUnordered cmp' as bs = .eq :=
  compareUnordered_eq_eq.mpr (pairUp_imp h (pairUp_of_compareUnordered hab))

theorem compareOptionalUnordered_mono [TransCmp cmp'] {o p : Option (List α)}
    (h : ∀ as, o = some as → ∀ bs, p = some bs → ∀ a ∈ as, ∀ b ∈ bs,
      cmp a b = .eq → cmp' a b = .eq) :
    compareOptional (compareUnordered cmp) o p = .eq →
      compareOptional (compareUnordered cmp') o p = .eq :=
  compareOptional_mono fun as has bs hbs => compareUnordered_mono (h as has bs hbs)

end Combinators

section Unlabelled

variable (ho : ∀ o, ctx.has o = true → ctx'.has o = true)

include ho

/-- Values that are equal at every depth are so when nested annotations are not looked into. -/
theorem ElementValue.compare_mono {a b : ElementValue} (h : a.compare ctx b = .eq) :
    a.compare ctx' b = .eq := by
  unfold ElementValue.compare at h ⊢
  cases hi : ctx.has .ignoreAnnotationValues with
  | true =>
    rw [hi] at h
    rwa [ho _ hi]
  | false =>
    rw [hi, Bool.not_false, LawfulEqCmp.compare_eq_iff_eq] at h
    rw [h]
    exact ReflCmp.compare_self

theorem compareOptionalValues_mono {o p : Option ElementValue} :
    compareOptional (ElementValue.compare ctx) o p = .eq →
      compareOptional (ElementValue.compare ctx') o p = .eq :=
  compareOptional_mono fun _ _ _ _ => ElementValue.compare_mono ho

theorem AnnotationUse.compare_mono {a b : AnnotationUse} (h : a.compare ctx b = .eq) :
    a.compare ctx' b = .eq :=
  ElementValue.compare_mono ho h

theorem TypeAnnotationUse.compare_mono {a b : TypeAnnotationUse} (h : a.compare ctx b = .eq) :
    a.compare ctx' b = .eq := by
  simp only [TypeAnnotationUse.compare, Ordering.then_eq_eq] at h ⊢
  exact ⟨AnnotationUse.compare_mono ho h.1, h.2⟩

theorem compareAnnotations_mono {o p : Option (List AnnotationUse)} :
    compareOptional (compareUnordered (AnnotationUse.compare ctx)) o p = .eq →
      compareOptional (compareUnordered (AnnotationUse.compare ctx')) o p = .eq :=
  compareOptionalUnordered_mono fun _ _ _ _ _ _ _ _ => AnnotationUse.compare_mono ho

theorem compareTypeAnnotations_mono {o p : Option (List TypeAnnotationUse)} :
    compareOptional (compareUnordered (TypeAnnotationUse.compare ctx)) o p = .eq →
      compareOptional (compareUnordered (TypeAnnotationUse.compare ctx')) o p = .eq :=
  compareOptionalUnordered_mono fun _ _ _ _ _ _ _ _ => TypeAnnotationUse.compare_mono ho

theorem compareParameterAnnotations_mono {o p : Option ParameterAnnotations} :
    compareParameterAnnotations ctx o p = .eq → compareParameterAnnotations ctx' o p = .eq :=
  compareOptional_mono fun _ _ _ _ => compareLists_mono fun _ _ _ _ => compareAnnotations_mono ho

theorem Metadata.compare_mono {a b : Metadata} (h : a.compare ctx b = .eq) :
    a.compare ctx' b = .eq := by
  simp only [Metadata.compare, Ordering.then_eq_eq] at h ⊢
  obtain ⟨hv, hi, hvt, hit, ha⟩ := h
  exact ⟨unless_mono (ho _) (compareAnnotations_mono ho) hv,
    unless_mono (ho _) (compareAnnotations_mono ho) hi,
    unless_mono (ho _) (compareTypeAnnotations_mono ho) hvt,
    unless_mono (ho _) (compareTypeAnnotations_mono ho) hit, unless_mono (ho _) id ha⟩

theorem Entity.compare_mono {a b : Entity} (h : a.compare ctx b = .eq) :
    a.compare ctx' b = .eq := by
  simp only [Entity.compare, Ordering.then_eq_eq] at h ⊢
  obtain ⟨hn, ha, hs, hm⟩ := h
  exact ⟨unless_mono (ho _) id hn, unless_mono (ho _) id ha, unless_mono (ho _) id hs,
    Metadata.compare_mono ho hm⟩

theorem Field.compare_mono {a b : Field} (h : a.compare ctx b = .eq) :
    a.compare ctx' b = .eq := by
  simp only [Field.compare, Ordering.then_eq_eq] at h ⊢
  obtain ⟨hn, hd, he, hv⟩ := h
  exact ⟨unless_mono (ho _) id hn, unless_mono (ho _) id hd, Entity.compare_mono ho he,
    unless_mono (ho _) id hv⟩

theorem Method.compareHeaders_mono {a b : Method} (h : compareHeaders ctx a b = .eq) :
    compareHeaders ctx' a b = .eq := by
  simp only [compareHeaders, Ordering.then_eq_eq] at h ⊢
  obtain ⟨hn, hd, he, hx, hp, hvc, hic, hva, hia⟩ := h
  exact ⟨unless_mono (ho _) id hn, unless_mono (ho _) id hd, Entity.compare_mono ho he,
    unless_mono (ho _) id hx, unless_mono (ho _) id hp, unless_mono (ho _) id hvc,
    unless_mono (ho _) id hic, unless_mono (ho _) (compareParameterAnnotations_mono ho) hva,
    unless_mono (ho _) (compareParameterAnnotations_mono ho) hia⟩

theorem ClassFile.compareHeaders_mono {a b : ClassFile} (h : compareHeaders ctx a b = .eq) :
    compareHeaders ctx' a b = .eq := by
  simp only [compareHeaders, Ordering.then_eq_eq] at h ⊢
  obtain ⟨he, hversion, hsuper, hinterfaces, hfile, hdebug, hclass, hmethod, hdescriptor, hinner,
    hhost, hmembers, hpermitted, hfields⟩ := h
  exact ⟨Entity.compare_mono ho he, unless_mono (ho _) id hversion, unless_mono (ho _) id hsuper,
    unless_mono (ho _) id hinterfaces, unless_mono (ho _) id hfile, unless_mono (ho _) id hdebug,
    unless_mono (ho _) id hclass, unless_mono (ho _) id hmethod,
    unless_mono (ho _) id hdescriptor, unless_mono (ho _) id hinner,
    unless_mono (ho _) id hhost, unless_mono (ho _) id hmembers,
    unless_mono (ho _) id hpermitted,
    unless_mono (ho _) (compareUnordered_mono fun _ _ _ _ => Field.compare_mono ho) hfields⟩

end Unlabelled

theorem Label.compare_mono {l m : Label} (h : ctx.Coarsens ctx' [l] [m])
    (hlm : l.compare ctx m = .eq) : l.compare ctx' m = .eq := by
  rw [Label.compare_eq_eq] at hlm ⊢
  exact h.indices l (by simp) m (by simp) hlm

theorem compareLabels_mono {ls ms : List Label} (h : ctx.Coarsens ctx' ls ms) :
    compareLists (Label.compare ctx) ls ms = .eq → compareLists (Label.compare ctx') ls ms = .eq :=
  compareLists_mono fun _ hl _ hm =>
    Label.compare_mono (h.subset (by simpa using hl) (by simpa using hm))

theorem Instruction.compare_mono {i j : Instruction} (h : ctx.Coarsens ctx' i.labels j.labels)
    (hij : i.compare ctx j = .eq) : i.compare ctx' j = .eq := by
  rw [compare_eq_eq] at hij ⊢
  exact hij.imp h.indices

theorem LocalVariable.compare_mono {a b : LocalVariable} (h : ctx.Coarsens ctx' a.labels b.labels)
    (hab : a.compare ctx b = .eq) : a.compare ctx' b = .eq := by
  rw [LocalVariable.compare_eq_eq] at hab ⊢
  exact hab.imp h.indices

theorem TryCatchBlock.compare_mono {a b : TryCatchBlock} (h : ctx.Coarsens ctx' a.labels b.labels)
    (hab : a.compare ctx b = .eq) : a.compare ctx' b = .eq := by
  simp only [TryCatchBlock.compare, Ordering.then_eq_eq] at hab ⊢
  obtain ⟨hstart, hstop, hhandler, htype, hv, hi⟩ := hab
  exact ⟨Label.compare_mono (h.subset (by simp [labels]) (by simp [labels])) hstart,
    Label.compare_mono (h.subset (by simp [labels]) (by simp [labels])) hstop,
    Label.compare_mono (h.subset (by simp [labels]) (by simp [labels])) hhandler, htype,
    unless_mono (h.options _) (compareTypeAnnotations_mono h.options) hv,
    unless_mono (h.options _) (compareTypeAnnotations_mono h.options) hi⟩

theorem LocalVariableAnnotationUse.compare_mono {a b : LocalVariableAnnotationUse}
    (h : ctx.Coarsens ctx' a.labels b.labels) (hab : a.compare ctx b = .eq) :
    a.compare ctx' b = .eq := by
  simp only [LocalVariableAnnotationUse.compare, Ordering.then_eq_eq] at hab ⊢
  obtain ⟨htype, hstarts, hends, hslots⟩ := hab
  exact ⟨TypeAnnotationUse.compare_mono h.options htype,
    compareLabels_mono (h.subset (fun _ => List.mem_append_left _) fun _ => List.mem_append_left _)
      hstarts,
    compareLabels_mono
      (h.subset (fun _ => List.mem_append_right _) fun _ => List.mem_append_right _) hends, hslots⟩

/-- Bodies that are equal under one context are so under a coarser one. -/
theorem Method.compareBodies_mono {a b : Method} (h : ctx.Coarsens ctx' a.labels b.labels)
    (hab : compareBodies ctx a b = .eq) : compareBodies ctx' a b = .eq := by
  have hoptions := h.options
  simp only [compareBodies, Ordering.then_eq_eq] at hab ⊢
  obtain ⟨hinstructions, hblocks, hlocals, hstack, hvariables, hvisible, hinvisible⟩ := hab
  refine ⟨unless_mono (hoptions _) (compareLists_mono fun i hi j hj => ?_) hinstructions,
    unless_mono (hoptions _) (compareUnordered_mono fun s hs t ht => ?_) hblocks,
    unless_mono (hoptions _) id hlocals, unless_mono (hoptions _) id hstack,
    unless_mono (hoptions _) (compareOptionalUnordered_mono fun vs hvs ws hws v hv w hw => ?_)
      hvariables,
    unless_mono (hoptions _) (compareOptionalUnordered_mono fun us hus ws hws u hu w hw => ?_)
      hvisible,
    unless_mono (hoptions _) (compareOptionalUnordered_mono fun us hus ws hws u hu w hw => ?_)
      hinvisible⟩
  · exact Instruction.compare_mono (h.subset (fun _ => mem_labels_of_instruction hi)
      fun _ => mem_labels_of_instruction hj)
  · exact TryCatchBlock.compare_mono (h.forRanges.subset (fun _ => mem_labels_of_tryCatchBlock hs)
      fun _ => mem_labels_of_tryCatchBlock ht)
  · exact LocalVariable.compare_mono
      (h.forRanges.subset (fun _ => mem_labels_of_localVariable hvs hv)
        fun _ => mem_labels_of_localVariable hws hw)
  · exact LocalVariableAnnotationUse.compare_mono
      (h.subset (fun _ => mem_labels_of_visibleUse hus hu) fun _ => mem_labels_of_visibleUse hws hw)
  · exact LocalVariableAnnotationUse.compare_mono
      (h.subset (fun _ => mem_labels_of_invisibleUse hus hu)
        fun _ => mem_labels_of_invisibleUse hws hw)

/-- The second context is coarser whatever the labels are, also for what belongs to a pair of
instruction lists, and it looks at the same instructions. -/
structure Context.CoarsensThroughout (ctx ctx' : Context) : Prop where
  labels : ∀ ls ms, ctx.Coarsens ctx' ls ms
  bodies : ∀ as bs ls ms, (ctx.forInstructions as bs).Coarsens (ctx'.forInstructions as bs) ls ms
  view : ∀ m, ctx'.view m = ctx.view m

theorem Context.CoarsensThroughout.options (h : ctx.CoarsensThroughout ctx') (o : CheckOption) :
    ctx.has o = true → ctx'.has o = true :=
  (h.labels [] []).options o

theorem Method.compare_mono (h : ctx.CoarsensThroughout ctx') {a b : Method}
    (hab : a.compare ctx b = .eq) : a.compare ctx' b = .eq := by
  rw [Method.compare] at hab
  rw [Method.compare, h.view, h.view]
  simp only [compareViews, Ordering.then_eq_eq] at hab ⊢
  obtain ⟨hheaders, hbodies, hdefault⟩ := hab
  exact ⟨compareHeaders_mono h.options hheaders, compareBodies_mono (h.bodies _ _ _ _) hbodies,
    unless_mono (h.options _) (compareOptionalValues_mono h.options) hdefault⟩

/-- Sorting methods under the first context may go wrong; only the second one has to order them. -/
theorem ClassFile.compare_mono (h : ctx.CoarsensThroughout ctx') (hmode : ctx'.mode = ctx.mode)
    [TransCmp (Method.compare ctx')] {a b : ClassFile} (hab : a.compare ctx b = .eq) :
    a.compare ctx' b = .eq := by
  have hmethods : compareMethods ctx a b = .eq → compareMethods ctx' a b = .eq := by
    unfold compareMethods
    rw [hmode]
    cases ctx.mode with
    | declarationsOnly => exact id
    | oneByOne => exact compareUnordered_mono fun _ _ _ _ => Method.compare_mono h
    | full => exact compareUnordered_mono fun _ _ _ _ => Method.compare_mono h
  rw [ClassFile.compare, Ordering.then_eq_eq] at hab ⊢
  exact ⟨compareHeaders_mono h.options hab.1, unless_mono (h.options _) hmethods hab.2⟩

/-- Below classes, nodes that are equal under one context are so under a coarser one. -/
theorem Kind.compare_mono {k : Kind} (hk : k ≠ .classFile) (h : ctx.CoarsensThroughout ctx')
    {a b : k.Node} (hab : k.compare ctx a b = .eq) : k.compare ctx' a b = .eq := by
  cases k with
  | label => exact Label.compare_mono (h.labels _ _) hab
  | elementValue => exact ElementValue.compare_mono h.options hab
  | annotationUse => exact AnnotationUse.compare_mono h.options hab
  | typeAnnotationUse => exact TypeAnnotationUse.compare_mono h.options hab
  | localVariableAnnotationUse => exact LocalVariableAnnotationUse.compare_mono (h.labels _ _) hab
  | tryCatchBlock => exact TryCatchBlock.compare_mono (h.labels _ _) hab
  | localVariable => exact LocalVariable.compare_mono (h.labels _ _) hab
  | instruction => exact Instruction.compare_mono (h.labels _ _) hab
  | field => exact Field.compare_mono h.options hab
  | method => exact Method.compare_mono h hab
  | classFile => exact absurd rfl hk
  -- What is left is compared without a look at the context.
  | _ => exact hab

end ClassMatch
