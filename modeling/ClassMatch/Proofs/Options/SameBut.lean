import ClassMatch.Proofs.Options.Coarser

/-!
Nodes that are the same but for what a set of options hides, at every depth. Each option is named
beside the one part that it hides; what has no option, or an option with more to it, stays. Under a
context with these options, such nodes are equal.
-/
namespace ClassMatch

open Std

/-- What nested annotations give for their elements may be hidden, but not that they are there. -/
inductive ElementValue.SameBut (hidden : Set CheckOption) : ElementValue → ElementValue → Prop
  | refl (value : ElementValue) : SameBut hidden value value
  | nested {descriptor : String} {elements elements' : List (String × ElementValue)}
      (h : .ignoreAnnotationValues ∈ hidden) :
      SameBut hidden (nested descriptor elements) (nested descriptor elements')
  | array {values values' : List ElementValue} (h : List.Forall₂ (SameBut hidden) values values') :
      SameBut hidden (array values) (array values')

structure AnnotationUse.SameBut (hidden : Set CheckOption) (a b : AnnotationUse) : Prop where
  descriptor : a.descriptor = b.descriptor
  elements : .ignoreAnnotationValues ∉ hidden → a.elements = b.elements

structure TypeAnnotationUse.SameBut (hidden : Set CheckOption) (a b : TypeAnnotationUse) :
    Prop where
  use : a.use.SameBut hidden b.use
  target : a.target = b.target
  path : a.path = b.path

structure LocalVariableAnnotationUse.SameBut (hidden : Set CheckOption)
    (a b : LocalVariableAnnotationUse) : Prop where
  typeUse : a.typeUse.SameBut hidden b.typeUse
  starts : a.starts = b.starts
  ends : a.ends = b.ends
  slots : a.slots = b.slots

structure Metadata.SameBut (hidden : Set CheckOption) (a b : Metadata) : Prop where
  visibleAnnotations : .ignoreVisibleAnnotations ∉ hidden →
    Option.Rel (List.Forall₂ (AnnotationUse.SameBut hidden)) a.visibleAnnotations
      b.visibleAnnotations
  invisibleAnnotations : .ignoreInvisibleAnnotations ∉ hidden →
    Option.Rel (List.Forall₂ (AnnotationUse.SameBut hidden)) a.invisibleAnnotations
      b.invisibleAnnotations
  visibleTypeAnnotations : .ignoreVisibleTypeAnnotations ∉ hidden →
    Option.Rel (List.Forall₂ (TypeAnnotationUse.SameBut hidden)) a.visibleTypeAnnotations
      b.visibleTypeAnnotations
  invisibleTypeAnnotations : .ignoreInvisibleTypeAnnotations ∉ hidden →
    Option.Rel (List.Forall₂ (TypeAnnotationUse.SameBut hidden)) a.invisibleTypeAnnotations
      b.invisibleTypeAnnotations
  attributes : .ignoreAttributes ∉ hidden → a.attributes = b.attributes

/-- What classes, fields and methods have in common, their kind among it. -/
structure Entity.SameBut (hidden : Set CheckOption) (a b : Entity) : Prop where
  name : .ignoreName ∉ hidden → a.name = b.name
  access : .ignoreAccess ∉ hidden → a.access = b.access
  signature : .ignoreSignature ∉ hidden → a.signature = b.signature
  metadata : a.metadata.SameBut hidden b.metadata

structure Field.SameBut (hidden : Set CheckOption) (a b : Field) : Prop where
  entity : a.entity.SameBut hidden b.entity
  descriptor : .ignoreDescriptor ∉ hidden → a.descriptor = b.descriptor
  value : .ignoreValue ∉ hidden → a.value = b.value

structure TryCatchBlock.SameBut (hidden : Set CheckOption) (a b : TryCatchBlock) : Prop where
  labels : a.labels = b.labels
  catchType : a.catchType = b.catchType
  visibleTypeAnnotations : .ignoreVisibleTypeAnnotations ∉ hidden →
    Option.Rel (List.Forall₂ (TypeAnnotationUse.SameBut hidden)) a.visibleTypeAnnotations
      b.visibleTypeAnnotations
  invisibleTypeAnnotations : .ignoreInvisibleTypeAnnotations ∉ hidden →
    Option.Rel (List.Forall₂ (TypeAnnotationUse.SameBut hidden)) a.invisibleTypeAnnotations
      b.invisibleTypeAnnotations

def ParameterAnnotations.SameBut (hidden : Set CheckOption) :
    Option ParameterAnnotations → Option ParameterAnnotations → Prop :=
  Option.Rel (List.Forall₂ (Option.Rel (List.Forall₂ (AnnotationUse.SameBut hidden))))

structure Method.SameBut (hidden : Set CheckOption) (a b : Method) : Prop where
  entity : a.entity.SameBut hidden b.entity
  descriptor : .ignoreDescriptor ∉ hidden → a.descriptor = b.descriptor
  exceptions : .ignoreExceptions ∉ hidden → a.exceptions = b.exceptions
  parameters : .ignoreParameters ∉ hidden → a.parameters = b.parameters
  annotationDefault : .ignoreAnnotationDefault ∉ hidden →
    Option.Rel (ElementValue.SameBut hidden) a.annotationDefault b.annotationDefault
  visibleAnnotableCount : .ignoreVisibleAnnotableParameterCount ∉ hidden →
    a.visibleAnnotableCount = b.visibleAnnotableCount
  visibleParameterAnnotations : .ignoreVisibleParameterAnnotations ∉ hidden →
    ParameterAnnotations.SameBut hidden a.visibleParameterAnnotations b.visibleParameterAnnotations
  invisibleAnnotableCount : .ignoreInvisibleAnnotableParameterCount ∉ hidden →
    a.invisibleAnnotableCount = b.invisibleAnnotableCount
  invisibleParameterAnnotations : .ignoreInvisibleParameterAnnotations ∉ hidden →
    ParameterAnnotations.SameBut hidden a.invisibleParameterAnnotations
      b.invisibleParameterAnnotations
  instructions : a.instructions = b.instructions
  tryCatchBlocks : List.Forall₂ (TryCatchBlock.SameBut hidden) a.tryCatchBlocks b.tryCatchBlocks
  maxStack : .ignoreMaxStack ∉ hidden → a.maxStack = b.maxStack
  maxLocals : .ignoreMaxLocals ∉ hidden → a.maxLocals = b.maxLocals
  localVariables : a.localVariables = b.localVariables
  visibleLocalVariableAnnotations :
    Option.Rel (List.Forall₂ (LocalVariableAnnotationUse.SameBut hidden))
      a.visibleLocalVariableAnnotations b.visibleLocalVariableAnnotations
  invisibleLocalVariableAnnotations :
    Option.Rel (List.Forall₂ (LocalVariableAnnotationUse.SameBut hidden))
      a.invisibleLocalVariableAnnotations b.invisibleLocalVariableAnnotations

structure ClassFile.SameBut (hidden : Set CheckOption) (a b : ClassFile) : Prop where
  entity : a.entity.SameBut hidden b.entity
  version : .ignoreVersion ∉ hidden → a.version = b.version
  superName : .ignoreSuperName ∉ hidden → a.superName = b.superName
  interfaces : .ignoreInterfaces ∉ hidden → a.interfaces = b.interfaces
  sourceFile : .ignoreSourceFile ∉ hidden → a.sourceFile = b.sourceFile
  sourceDebug : .ignoreSourceDebug ∉ hidden → a.sourceDebug = b.sourceDebug
  outerClass : .ignoreOuterClass ∉ hidden → a.outerClass = b.outerClass
  outerMethod : .ignoreOuterMethod ∉ hidden → a.outerMethod = b.outerMethod
  outerMethodDescriptor : .ignoreOuterMethodDescriptor ∉ hidden →
    a.outerMethodDescriptor = b.outerMethodDescriptor
  innerClasses : .ignoreInnerClasses ∉ hidden → a.innerClasses = b.innerClasses
  nestHost : .ignoreNestHostClass ∉ hidden → a.nestHost = b.nestHost
  nestMembers : .ignoreNestMembers ∉ hidden → a.nestMembers = b.nestMembers
  permittedSubclasses : .ignorePermittedSubclasses ∉ hidden →
    a.permittedSubclasses = b.permittedSubclasses
  fields : .ignoreFields ∉ hidden → List.Forall₂ (Field.SameBut hidden) a.fields b.fields
  methods : .ignoreMethods ∉ hidden → List.Forall₂ (Method.SameBut hidden) a.methods b.methods

variable {hidden : Set CheckOption}

section Refl

theorem AnnotationUse.SameBut.refl (use : AnnotationUse) : use.SameBut hidden use :=
  ⟨rfl, fun _ => rfl⟩

theorem TypeAnnotationUse.SameBut.refl (use : TypeAnnotationUse) : use.SameBut hidden use :=
  ⟨.refl use.use, rfl, rfl⟩

theorem LocalVariableAnnotationUse.SameBut.refl (use : LocalVariableAnnotationUse) :
    use.SameBut hidden use := ⟨.refl use.typeUse, rfl, rfl, rfl⟩

theorem Metadata.SameBut.refl (data : Metadata) : data.SameBut hidden data where
  visibleAnnotations _ := optionRel_refl (forall₂_self AnnotationUse.SameBut.refl) _
  invisibleAnnotations _ := optionRel_refl (forall₂_self AnnotationUse.SameBut.refl) _
  visibleTypeAnnotations _ := optionRel_refl (forall₂_self TypeAnnotationUse.SameBut.refl) _
  invisibleTypeAnnotations _ := optionRel_refl (forall₂_self TypeAnnotationUse.SameBut.refl) _
  attributes _ := rfl

theorem Entity.SameBut.refl (e : Entity) : e.SameBut hidden e :=
  ⟨fun _ => rfl, fun _ => rfl, fun _ => rfl, .refl e.metadata⟩

theorem Field.SameBut.refl (f : Field) : f.SameBut hidden f :=
  ⟨.refl f.entity, fun _ => rfl, fun _ => rfl⟩

theorem TryCatchBlock.SameBut.refl (block : TryCatchBlock) : block.SameBut hidden block :=
  ⟨rfl, rfl, fun _ => optionRel_refl (forall₂_self TypeAnnotationUse.SameBut.refl) _,
    fun _ => optionRel_refl (forall₂_self TypeAnnotationUse.SameBut.refl) _⟩

theorem ParameterAnnotations.SameBut.refl (annotations : Option ParameterAnnotations) :
    ParameterAnnotations.SameBut hidden annotations annotations :=
  optionRel_refl (forall₂_self (optionRel_refl (forall₂_self AnnotationUse.SameBut.refl))) _

theorem Method.SameBut.refl (m : Method) : m.SameBut hidden m where
  entity := .refl m.entity
  descriptor _ := rfl
  exceptions _ := rfl
  parameters _ := rfl
  annotationDefault _ := optionRel_refl ElementValue.SameBut.refl _
  visibleAnnotableCount _ := rfl
  visibleParameterAnnotations _ := ParameterAnnotations.SameBut.refl _
  invisibleAnnotableCount _ := rfl
  invisibleParameterAnnotations _ := ParameterAnnotations.SameBut.refl _
  instructions := rfl
  tryCatchBlocks := forall₂_self TryCatchBlock.SameBut.refl _
  maxStack _ := rfl
  maxLocals _ := rfl
  localVariables := rfl
  visibleLocalVariableAnnotations :=
    optionRel_refl (forall₂_self LocalVariableAnnotationUse.SameBut.refl) _
  invisibleLocalVariableAnnotations :=
    optionRel_refl (forall₂_self LocalVariableAnnotationUse.SameBut.refl) _

theorem ClassFile.SameBut.refl (c : ClassFile) : c.SameBut hidden c where
  entity := .refl c.entity
  version _ := rfl
  superName _ := rfl
  interfaces _ := rfl
  sourceFile _ := rfl
  sourceDebug _ := rfl
  outerClass _ := rfl
  outerMethod _ := rfl
  outerMethodDescriptor _ := rfl
  innerClasses _ := rfl
  nestHost _ := rfl
  nestMembers _ := rfl
  permittedSubclasses _ := rfl
  fields _ := forall₂_self Field.SameBut.refl _
  methods _ := forall₂_self Method.SameBut.refl _

end Refl

theorem flatMap_eq_of_forall₂ {α β γ : Type} {r : α → β → Prop} {f : α → List γ} {g : β → List γ}
    {as : List α} {bs : List β} (hfg : ∀ a b, r a b → f a = g b) (h : List.Forall₂ r as bs) :
    as.flatMap f = bs.flatMap g := by
  rw [List.flatMap_def, List.flatMap_def, map_eq_map_iff_forall₂.mpr (h.imp hfg)]

theorem LocalVariableAnnotationUse.SameBut.labels_eq {a b : LocalVariableAnnotationUse}
    (h : a.SameBut hidden b) : a.labels = b.labels := by
  rw [labels, labels, h.starts, h.ends]

/-- What options hide does not refer to labels. -/
theorem Method.SameBut.anchors_eq {a b : Method} (h : a.SameBut hidden b) :
    a.anchors = b.anchors := by
  have huses {o p : Option (List LocalVariableAnnotationUse)}
      (h : Option.Rel (List.Forall₂ (LocalVariableAnnotationUse.SameBut hidden)) o p) :
      (o.getD []).flatMap LocalVariableAnnotationUse.labels =
        (p.getD []).flatMap LocalVariableAnnotationUse.labels :=
    flatMap_eq_of_forall₂ (fun _ _ => LocalVariableAnnotationUse.SameBut.labels_eq)
      (optionRel_getD h .nil)
  have hblocks : a.tryCatchBlocks.flatMap TryCatchBlock.labels =
      b.tryCatchBlocks.flatMap TryCatchBlock.labels :=
    flatMap_eq_of_forall₂ (fun _ _ h => h.labels) h.tryCatchBlocks
  rw [anchors, anchors, h.instructions, hblocks, h.localVariables,
    huses h.visibleLocalVariableAnnotations, huses h.invisibleLocalVariableAnnotations]

section Equal

variable {ctx : Context} (hh : ∀ o ∈ hidden, ctx.has o = true)

include hh

theorem not_mem_of_has_eq_false {o : CheckOption} (h : ctx.has o = false) : o ∉ hidden := by
  intro ho
  rw [hh o ho] at h
  exact Bool.noConfusion h

theorem unless_of_shown {o : CheckOption} {order : Ordering} (h : o ∉ hidden → order = .eq) :
    ctx.unless o order = .eq := by
  rw [unless_eq_eq]
  by_cases ho : o ∈ hidden
  · exact .inl (hh o ho)
  · exact .inr (h ho)

theorem unless_of_eq {α : Type} {cmp : α → α → Ordering} [ReflCmp cmp] {o : CheckOption} {a b : α}
    (h : o ∉ hidden → a = b) : ctx.unless o (cmp a b) = .eq :=
  unless_of_shown hh fun ho => ReflCmp.cmp_eq_of_eq (h ho)

omit hh in
theorem compareUnordered_of_forall₂ {α : Type} {cmp : α → α → Ordering} [TransCmp cmp]
    {r : α → α → Prop} (hr : ∀ a b, r a b → cmp a b = .eq) {as bs : List α}
    (h : List.Forall₂ r as bs) : compareUnordered cmp as bs = .eq :=
  compareUnordered_eq_eq.mpr (pairUp_of_forall₂ (h.imp hr))

omit hh in
theorem compareOptionalUnordered_of_forall₂ {α : Type} {cmp : α → α → Ordering} [TransCmp cmp]
    {r : α → α → Prop} (hr : ∀ a b, r a b → cmp a b = .eq) {o p : Option (List α)}
    (h : Option.Rel (List.Forall₂ r) o p) : compareOptional (compareUnordered cmp) o p = .eq := by
  cases h with
  | none => rfl
  | some h => exact compareUnordered_of_forall₂ hr h

theorem ElementValue.compare_of_sameBut {a b : ElementValue} (h : a.SameBut hidden b) :
    a.compare ctx b = .eq := by
  induction hsize : sizeOf a using Nat.strong_induction_on generalizing a b with
  | _ n ih =>
    subst hsize
    cases h with
    | refl => exact ReflCmp.compare_self
    | nested hvalues =>
      simp [ElementValue.compare, sorted, compareSorted, hh _ hvalues]
    | @array vs vs' hvs =>
      have hvalues : List.Forall₂ (fun v v' => v.compare ctx v' = .eq) vs vs' := by
        refine forall₂_imp_of_mem (fun v hv v' _ hv' => ih _ ?_ hv' rfl) hvs
        have hlt := List.sizeOf_lt_of_mem hv
        simp only [array.sizeOf_spec]
        omega
      have hlists : compareLists (compareSorted !ctx.has .ignoreAnnotationValues)
          (vs.map sorted) (vs'.map sorted) = .eq := by
        rw [compareLists_eq_eq, List.forall₂_map_left_iff, List.forall₂_map_right_iff]
        exact hvalues
      rw [ElementValue.compare, sorted, sorted, compareSorted, sortedValues_eq_map,
        sortedValues_eq_map, compareSortedValues_eq]
      exact hlists

theorem AnnotationUse.compare_of_sameBut {a b : AnnotationUse} (h : a.SameBut hidden b) :
    a.compare ctx b = .eq := by
  refine ElementValue.compare_of_sameBut hh ?_
  rw [toValue, toValue, h.descriptor]
  by_cases ho : .ignoreAnnotationValues ∈ hidden
  · exact .nested ho
  · rw [h.elements ho]
    exact .refl _

theorem TypeAnnotationUse.compare_of_sameBut {a b : TypeAnnotationUse} (h : a.SameBut hidden b) :
    a.compare ctx b = .eq := by
  rw [TypeAnnotationUse.compare, AnnotationUse.compare_of_sameBut hh h.use, h.target, h.path]
  simp

theorem LocalVariableAnnotationUse.compare_of_sameBut {a b : LocalVariableAnnotationUse}
    (h : a.SameBut hidden b) : a.compare ctx b = .eq := by
  rw [LocalVariableAnnotationUse.compare, TypeAnnotationUse.compare_of_sameBut hh h.typeUse,
    h.starts, h.ends, h.slots]
  simp [ReflCmp.compare_self]

theorem compareAnnotations_of_sameBut {o p : Option (List AnnotationUse)}
    (h : Option.Rel (List.Forall₂ (AnnotationUse.SameBut hidden)) o p) :
    compareOptional (compareUnordered (AnnotationUse.compare ctx)) o p = .eq :=
  compareOptionalUnordered_of_forall₂ (fun _ _ => AnnotationUse.compare_of_sameBut hh) h

theorem compareTypeAnnotations_of_sameBut {o p : Option (List TypeAnnotationUse)}
    (h : Option.Rel (List.Forall₂ (TypeAnnotationUse.SameBut hidden)) o p) :
    compareOptional (compareUnordered (TypeAnnotationUse.compare ctx)) o p = .eq :=
  compareOptionalUnordered_of_forall₂ (fun _ _ => TypeAnnotationUse.compare_of_sameBut hh) h

theorem compareParameterAnnotations_of_sameBut {o p : Option ParameterAnnotations}
    (h : ParameterAnnotations.SameBut hidden o p) :
    compareParameterAnnotations ctx o p = .eq := by
  rw [compareParameterAnnotations, compareOptional_eq_eq]
  cases h with
  | none => exact .none
  | some h =>
    exact .some (compareLists_eq_eq.mpr (h.imp fun _ _ => compareAnnotations_of_sameBut hh))

theorem Metadata.compare_of_sameBut {a b : Metadata} (h : a.SameBut hidden b) :
    a.compare ctx b = .eq := by
  simp only [Metadata.compare, Ordering.then_eq_eq]
  exact ⟨unless_of_shown hh fun ho => compareAnnotations_of_sameBut hh (h.visibleAnnotations ho),
    unless_of_shown hh fun ho => compareAnnotations_of_sameBut hh (h.invisibleAnnotations ho),
    unless_of_shown hh fun ho =>
      compareTypeAnnotations_of_sameBut hh (h.visibleTypeAnnotations ho),
    unless_of_shown hh fun ho =>
      compareTypeAnnotations_of_sameBut hh (h.invisibleTypeAnnotations ho),
    unless_of_eq hh h.attributes⟩

theorem Entity.compare_of_sameBut {a b : Entity} (h : a.SameBut hidden b) :
    a.compare ctx b = .eq := by
  simp only [Entity.compare, Ordering.then_eq_eq]
  exact ⟨unless_of_eq hh h.name, unless_of_eq hh h.access, unless_of_eq hh h.signature,
    Metadata.compare_of_sameBut hh h.metadata⟩

theorem Field.compare_of_sameBut {a b : Field} (h : a.SameBut hidden b) :
    a.compare ctx b = .eq := by
  simp only [Field.compare, Ordering.then_eq_eq]
  exact ⟨unless_of_eq hh h.entity.name, unless_of_eq hh h.descriptor,
    Entity.compare_of_sameBut hh h.entity, unless_of_eq hh h.value⟩

theorem TryCatchBlock.compare_of_sameBut {a b : TryCatchBlock} (h : a.SameBut hidden b) :
    a.compare ctx b = .eq := by
  obtain ⟨hlabels, htype, hvisible, hinvisible⟩ := h
  simp only [labels, List.cons.injEq, and_true] at hlabels
  obtain ⟨hstart, hstop, hhandler⟩ := hlabels
  simp only [TryCatchBlock.compare, Ordering.then_eq_eq]
  exact ⟨ReflCmp.cmp_eq_of_eq hstart, ReflCmp.cmp_eq_of_eq hstop, ReflCmp.cmp_eq_of_eq hhandler,
    ReflCmp.cmp_eq_of_eq htype,
    unless_of_shown hh fun ho => compareTypeAnnotations_of_sameBut hh (hvisible ho),
    unless_of_shown hh fun ho => compareTypeAnnotations_of_sameBut hh (hinvisible ho)⟩

theorem Method.compareHeaders_of_sameBut {a b : Method} (h : a.SameBut hidden b) :
    compareHeaders ctx a b = .eq := by
  simp only [compareHeaders, Ordering.then_eq_eq]
  exact ⟨unless_of_eq hh h.entity.name, unless_of_eq hh h.descriptor,
    Entity.compare_of_sameBut hh h.entity, unless_of_eq hh h.exceptions,
    unless_of_eq hh h.parameters, unless_of_eq hh h.visibleAnnotableCount,
    unless_of_eq hh h.invisibleAnnotableCount,
    unless_of_shown hh fun ho =>
      compareParameterAnnotations_of_sameBut hh (h.visibleParameterAnnotations ho),
    unless_of_shown hh fun ho =>
      compareParameterAnnotations_of_sameBut hh (h.invisibleParameterAnnotations ho)⟩

theorem Method.compareBodies_of_sameBut {a b : Method} (h : a.SameBut hidden b) :
    compareBodies ctx a b = .eq := by
  have hranges (o : CheckOption) (ho : o ∈ hidden) : ctx.forRanges.has o = true := by
    rw [Context.has_forRanges]
    exact hh o ho
  have hblocks : compareUnordered (TryCatchBlock.compare ctx.forRanges) a.tryCatchBlocks
      b.tryCatchBlocks = .eq :=
    compareUnordered_of_forall₂ (fun _ _ => TryCatchBlock.compare_of_sameBut hranges)
      h.tryCatchBlocks
  have huses {o p : Option (List LocalVariableAnnotationUse)}
      (h : Option.Rel (List.Forall₂ (LocalVariableAnnotationUse.SameBut hidden)) o p) :
      compareOptional (compareUnordered (LocalVariableAnnotationUse.compare ctx)) o p = .eq :=
    compareOptionalUnordered_of_forall₂
      (fun _ _ => LocalVariableAnnotationUse.compare_of_sameBut hh) h
  simp only [compareBodies, Ordering.then_eq_eq]
  exact ⟨unless_of_eq hh fun _ => h.instructions, unless_of_shown hh fun _ => hblocks,
    unless_of_eq hh h.maxLocals, unless_of_eq hh h.maxStack,
    unless_of_eq hh fun _ => h.localVariables,
    unless_of_shown hh fun _ => huses h.visibleLocalVariableAnnotations,
    unless_of_shown hh fun _ => huses h.invisibleLocalVariableAnnotations⟩

theorem Method.compareResolved_of_sameBut {body : Context}
    (hbody : ∀ o ∈ hidden, body.has o = true) {a b : Method} (h : a.SameBut hidden b) :
    compareResolved ctx body a b = .eq := by
  have hdefault {o p : Option ElementValue} (h : Option.Rel (ElementValue.SameBut hidden) o p) :
      compareOptional (ElementValue.compare ctx) o p = .eq := by
    cases h with
    | none => rfl
    | some h => exact ElementValue.compare_of_sameBut hh h
  simp only [compareResolved, Ordering.then_eq_eq]
  exact ⟨compareHeaders_of_sameBut hh h, compareBodies_of_sameBut hbody h,
    unless_of_shown hh fun ho => hdefault (h.annotationDefault ho)⟩

theorem ClassFile.compareHeaders_of_sameBut {a b : ClassFile} (h : a.SameBut hidden b) :
    compareHeaders ctx a b = .eq := by
  have hfields (ho : .ignoreFields ∉ hidden) :
      compareUnordered (Field.compare ctx) a.fields b.fields = .eq :=
    compareUnordered_of_forall₂ (fun _ _ => Field.compare_of_sameBut hh) (h.fields ho)
  simp only [compareHeaders, Ordering.then_eq_eq]
  exact ⟨Entity.compare_of_sameBut hh h.entity, unless_of_eq hh h.version,
    unless_of_eq hh h.superName, unless_of_eq hh h.interfaces, unless_of_eq hh h.sourceFile,
    unless_of_eq hh h.sourceDebug, unless_of_eq hh h.outerClass, unless_of_eq hh h.outerMethod,
    unless_of_eq hh h.outerMethodDescriptor, unless_of_eq hh h.innerClasses,
    unless_of_eq hh h.nestHost, unless_of_eq hh h.nestMembers,
    unless_of_eq hh h.permittedSubclasses, unless_of_shown hh hfields⟩

end Equal

end ClassMatch
