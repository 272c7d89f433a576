import ClassMatch.Proofs.Access.Flags
import ClassMatch.Proofs.Alike.Code
import ClassMatch.Proofs.Bare
import ClassMatch.Proofs.Check.Agreement
import ClassMatch.Proofs.Label.Resolution

/-!
When methods say the same: their parts are identical, except that lists that stand for sets are
alike as multisets and that labels are known by their place. Without options, this is exactly when
the check of two methods passes, so it looks at every part.
-/
namespace ClassMatch

open Std

variable {ctx : Context} {same same' : Label → Label → Prop}

/-- Masks count as far as their bits have a meaning for parameters. -/
@[mk_iff]
structure Parameter.Alike (a b : Parameter) : Prop where
  name : a.name = b.name
  access : AccessKind.onParameter.truncate a.access = AccessKind.onParameter.truncate b.access

theorem Parameter.compare_eq_eq {a b : Parameter} : a.compare b = .eq ↔ a.Alike b := by
  rw [Parameter.compare, Ordering.then_eq_eq, LawfulEqCmp.compare_eq_iff_eq,
    Access.compare_eq_eq, alike_iff]

/-- Each parameter has alike annotations on both sides, in any order, or none on either. -/
def ParameterAnnotations.Alike : Option ParameterAnnotations → Option ParameterAnnotations → Prop :=
  Option.Rel (List.Forall₂ (Option.Rel (PairUp AnnotationUse.Alike)))

theorem compareParameterAnnotations_eq_eq (h : ctx.has .ignoreAnnotationValues = false)
    {a b : Option ParameterAnnotations} :
    compareParameterAnnotations ctx a b = .eq ↔ ParameterAnnotations.Alike a b := by
  simp only [compareParameterAnnotations, compareOptional_eq_eq, compareLists_eq_eq,
    compareUnordered_eq_eq, AnnotationUse.compare_eq_eq h, ParameterAnnotations.Alike]

namespace Method

/-- Everything before the body is alike. -/
@[mk_iff]
structure HeaderAlike (a b : Method) : Prop where
  name : a.name = b.name
  descriptor : a.descriptor = b.descriptor
  access : AccessKind.onMethod.truncate a.access = AccessKind.onMethod.truncate b.access
  signature : a.signature = b.signature
  metadata : a.metadata.Alike b.metadata
  exceptions : a.exceptions.Perm b.exceptions
  parameters : Option.Rel (List.Forall₂ Parameter.Alike) a.parameters b.parameters
  visibleAnnotableCount : a.visibleAnnotableCount = b.visibleAnnotableCount
  invisibleAnnotableCount : a.invisibleAnnotableCount = b.invisibleAnnotableCount
  visibleParameterAnnotations :
    ParameterAnnotations.Alike a.visibleParameterAnnotations b.visibleParameterAnnotations
  invisibleParameterAnnotations :
    ParameterAnnotations.Alike a.invisibleParameterAnnotations b.invisibleParameterAnnotations

/-- Instructions are alike one by one, and the tables as multisets. -/
@[mk_iff]
structure BodyAlike (same : Label → Label → Prop) (a b : Method) : Prop where
  instructions : List.Forall₂ (Instruction.Alike same) a.instructions b.instructions
  tryCatchBlocks : PairUp (TryCatchBlock.Alike same) a.tryCatchBlocks b.tryCatchBlocks
  maxLocals : a.maxLocals = b.maxLocals
  maxStack : a.maxStack = b.maxStack
  localVariables :
    Option.Rel (PairUp (LocalVariable.Alike same)) a.localVariables b.localVariables
  visibleLocalVariableAnnotations :
    Option.Rel (PairUp (LocalVariableAnnotationUse.Alike same)) a.visibleLocalVariableAnnotations
      b.visibleLocalVariableAnnotations
  invisibleLocalVariableAnnotations :
    Option.Rel (PairUp (LocalVariableAnnotationUse.Alike same)) a.invisibleLocalVariableAnnotations
      b.invisibleLocalVariableAnnotations

/-- Methods that say the same, labels being the same when they are related. -/
@[mk_iff]
structure Alike (same : Label → Label → Prop) (a b : Method) : Prop where
  header : a.HeaderAlike b
  body : a.BodyAlike same b
  annotationDefault : Option.Rel ElementValue.Alike a.annotationDefault b.annotationDefault

/-- The ordinal of a label that the method places; another one is what it is outside. -/
def place (outside : LabelIndices) (m : Method) : LabelIndices := fun l =>
  (ordinals m.instructions l).or (outside l)

theorem compareHeaders_eq_eq (h : ctx.options = .empty) {a b : Method} :
    compareHeaders ctx a b = .eq ↔ a.HeaderAlike b := by
  simp only [compareHeaders, Entity.compare, Method.entity, Ordering.then_eq_eq, unless_eq_eq,
    Context.has_eq_false h, Bool.false_eq_true, false_or, LawfulEqCmp.compare_eq_iff_eq,
    Access.compare_eq_eq, Metadata.compare_eq_eq h, ClassMatch.compareUnordered_eq_eq,
    pairUp_eq_iff, compareOptional_eq_eq, compareLists_eq_eq, Parameter.compare_eq_eq,
    compareParameterAnnotations_eq_eq (Context.has_eq_false h _), headerAlike_iff]
  -- The name is compared by itself and once more with what classes and fields have as well.
  tauto

theorem compareBodies_eq_eq (h : ctx.options = .empty) {a b : Method} :
    compareBodies ctx a b = .eq ↔ a.BodyAlike ctx.SameIndex b := by
  have hranges : ctx.forRanges = ctx := by
    rw [Context.forRanges, Context.has_eq_false h]
    rfl
  simp only [compareBodies, hranges, Ordering.then_eq_eq, unless_eq_eq, Context.has_eq_false h,
    Bool.false_eq_true, false_or, LawfulEqCmp.compare_eq_iff_eq, compareLists_eq_eq,
    Instruction.compare_eq_eq, ClassMatch.compareUnordered_eq_eq, TryCatchBlock.compare_eq_eq h,
    compareOptional_eq_eq, LocalVariable.compare_eq_eq,
    LocalVariableAnnotationUse.compare_eq_eq h, bodyAlike_iff]

/-- Bodies are alike under any view of labels that agrees on those of the two methods. -/
theorem BodyAlike.imp {a b : Method}
    (h : ∀ l ∈ a.labels, ∀ m ∈ b.labels, same l m → same' l m) (hab : a.BodyAlike same b) :
    a.BodyAlike same' b where
  instructions := forall₂_imp_of_mem (fun _ hi _ hj => Instruction.Alike.imp fun l hl m hm =>
    h l (mem_labels_of_instruction hi hl) m (mem_labels_of_instruction hj hm)) hab.instructions
  tryCatchBlocks := pairUp_imp (fun _ hs _ ht => TryCatchBlock.Alike.imp fun l hl m hm =>
    h l (mem_labels_of_tryCatchBlock hs hl) m (mem_labels_of_tryCatchBlock ht hm))
    hab.tryCatchBlocks
  maxLocals := hab.maxLocals
  maxStack := hab.maxStack
  localVariables := optionRel_pairUp_imp (fun _ hvs _ hws _ hv _ hw =>
    LocalVariable.Alike.imp fun l hl m hm =>
      h l (mem_labels_of_localVariable hvs hv hl) m (mem_labels_of_localVariable hws hw hm))
    hab.localVariables
  visibleLocalVariableAnnotations := optionRel_pairUp_imp (fun _ hus _ hws _ hu _ hw =>
    LocalVariableAnnotationUse.Alike.imp fun l hl m hm =>
      h l (mem_labels_of_visibleUse hus hu hl) m
        (mem_labels_of_visibleUse hws hw hm))
    hab.visibleLocalVariableAnnotations
  invisibleLocalVariableAnnotations := optionRel_pairUp_imp (fun _ hus _ hws _ hu _ hw =>
    LocalVariableAnnotationUse.Alike.imp fun l hl m hm =>
      h l (mem_labels_of_invisibleUse hus hu hl) m
        (mem_labels_of_invisibleUse hws hw hm))
    hab.invisibleLocalVariableAnnotations

/-- Where two methods agree on the places of their common labels, a label of one and a label of the
other have the same index exactly if they have the same place. -/
theorem sameIndex_iff_place {a b : Method} (hfixed : ctx.fixed = false)
    (hab : ∀ l ∈ a.labels, l ∈ b.labels → ordinals a.instructions l = ordinals b.instructions l)
    {l m : Label} (hl : l ∈ a.labels) (hm : m ∈ b.labels) :
    (ctx.forInstructions a.instructions b.instructions).SameIndex l m ↔
      a.place ctx.indices l = b.place ctx.indices m := by
  rw [Context.SameIndex,
    Context.forInstructions_indices_actual hfixed fun h => hab l hl (mem_labels_of_placed h),
    Context.forInstructions_indices_expected hfixed fun h => hab m (mem_labels_of_placed h) hm]
  rfl

/-- Without options, two methods that agree on the places of their common labels pass their check
exactly if they are alike in every part, labels being the same when they have the same place. -/
theorem passes_check_iff_alike (hfixed : ctx.fixed = false) (ho : ctx.options = .empty)
    {a b : Method}
    (hab : ∀ l ∈ a.labels, l ∈ b.labels → ordinals a.instructions l = ordinals b.instructions l)
    (trail : Trail) :
    ((a.check ctx b).run trail).passes = true ↔
      a.Alike (fun l m => a.place ctx.indices l = b.place ctx.indices m) b := by
  have hbodies : compareBodies (ctx.forInstructions a.instructions b.instructions) a b = .eq ↔
      a.BodyAlike (fun l m => a.place ctx.indices l = b.place ctx.indices m) b := by
    rw [compareBodies_eq_eq (Context.forInstructions_options.trans ho)]
    constructor
    · exact BodyAlike.imp fun l hl m hm => (sameIndex_iff_place hfixed hab hl hm).mp
    · exact BodyAlike.imp fun l hl m hm => (sameIndex_iff_place hfixed hab hl hm).mpr
  simp only [passes_check, Method.compare, Context.view_eq_self (Context.has_eq_false ho _),
    compareViews, Ordering.then_eq_eq,
    compareHeaders_eq_eq ho, hbodies, unless_eq_eq, Context.has_eq_false ho, Bool.false_eq_true,
    false_or, compareOptional_eq_eq, ElementValue.compare_eq_eq (Context.has_eq_false ho _),
    alike_iff]

/-- Exceptions may change places, labels their identity, and bits that mean nothing for methods are
not looked at. -/
theorem passes_check_of_alike :
    ((check .plain
      { bare "m" "()V" [.label ⟨0⟩, .label ⟨1⟩, .jump 167 ⟨0⟩] with
        access := 1, exceptions := ["A", "B"], tryCatchBlocks := [.bare ⟨1⟩] }
      { bare "m" "()V" [.label ⟨0⟩, .label ⟨5⟩, .jump 167 ⟨0⟩] with
        access := 0x201, exceptions := ["B", "A"], tryCatchBlocks := [.bare ⟨5⟩] }).run
      .empty).passes = true := by
  refine (passes_check_iff_alike rfl rfl (by decide) .empty).mpr ⟨?_, ?_, .none⟩
  · exact ⟨rfl, rfl, rfl, rfl, ⟨.none, .none, .none, .none, .none⟩, .swap "B" "A" [], .none, rfl,
      rfl, .none, .none⟩
  · refine ⟨.cons (.label rfl) (.cons (.label ?_) (.cons (.jump rfl) .nil)),
      ⟨[.bare ⟨5⟩], .cons ⟨?_, ?_, ?_, rfl, .none, .none⟩ .nil, .refl _⟩, rfl, rfl, .none, .none,
      .none⟩
    all_goals decide

end Method

end ClassMatch
