import ClassMatch.Proofs.Check.Equivalence
import ClassMatch.Proofs.LineNumbers.Tables
import ClassMatch.Proofs.Permuted.Annotations

/-!
Classes whose parts change places at every level: what is in their annotations, the lists of their
members, and the members themselves. No mode and no context tells such classes apart as long as
members have keys of their own, annotations give each element once and labels are resolved in one
way throughout.
-/
namespace ClassMatch

open Std

variable {ctx : Context} {trail : Trail}

structure Entity.Permuted (a b : Entity) : Prop where
  name : a.name = b.name
  access : a.access = b.access
  signature : a.signature = b.signature
  metadata : a.metadata.Permuted b.metadata

structure Field.Permuted (a b : Field) : Prop where
  entity : a.entity.Permuted b.entity
  descriptor : a.descriptor = b.descriptor
  value : a.value = b.value

structure TryCatchBlock.Permuted (a b : TryCatchBlock) : Prop where
  start : a.start = b.start
  stop : a.stop = b.stop
  handler : a.handler = b.handler
  catchType : a.catchType = b.catchType
  visibleTypeAnnotations :
    Option.Rel (PairUp TypeAnnotationUse.Permuted) a.visibleTypeAnnotations
      b.visibleTypeAnnotations
  invisibleTypeAnnotations :
    Option.Rel (PairUp TypeAnnotationUse.Permuted) a.invisibleTypeAnnotations
      b.invisibleTypeAnnotations

/-- Instructions and parameters stay in order. -/
structure Method.Permuted (a b : Method) : Prop where
  entity : a.entity.Permuted b.entity
  descriptor : a.descriptor = b.descriptor
  exceptions : a.exceptions.Perm b.exceptions
  parameters : a.parameters = b.parameters
  annotationDefault : Option.Rel ElementValue.Permuted a.annotationDefault b.annotationDefault
  visibleAnnotableCount : a.visibleAnnotableCount = b.visibleAnnotableCount
  visibleParameterAnnotations :
    ParameterAnnotations.Permuted a.visibleParameterAnnotations b.visibleParameterAnnotations
  invisibleAnnotableCount : a.invisibleAnnotableCount = b.invisibleAnnotableCount
  invisibleParameterAnnotations :
    ParameterAnnotations.Permuted a.invisibleParameterAnnotations b.invisibleParameterAnnotations
  instructions : a.instructions = b.instructions
  tryCatchBlocks : PairUp TryCatchBlock.Permuted a.tryCatchBlocks b.tryCatchBlocks
  maxStack : a.maxStack = b.maxStack
  maxLocals : a.maxLocals = b.maxLocals
  localVariables : Option.Rel List.Perm a.localVariables b.localVariables
  visibleLocalVariableAnnotations :
    Option.Rel (PairUp LocalVariableAnnotationUse.Permuted) a.visibleLocalVariableAnnotations
      b.visibleLocalVariableAnnotations
  invisibleLocalVariableAnnotations :
    Option.Rel (PairUp LocalVariableAnnotationUse.Permuted) a.invisibleLocalVariableAnnotations
      b.invisibleLocalVariableAnnotations

structure ClassFile.Permuted (a b : ClassFile) : Prop where
  entity : a.entity.Permuted b.entity
  version : a.version = b.version
  superName : a.superName = b.superName
  interfaces : a.interfaces.Perm b.interfaces
  sourceFile : a.sourceFile = b.sourceFile
  sourceDebug : a.sourceDebug = b.sourceDebug
  outerClass : a.outerClass = b.outerClass
  outerMethod : a.outerMethod = b.outerMethod
  outerMethodDescriptor : a.outerMethodDescriptor = b.outerMethodDescriptor
  innerClasses : a.innerClasses.Perm b.innerClasses
  nestHost : a.nestHost = b.nestHost
  nestMembers : Option.Rel List.Perm a.nestMembers b.nestMembers
  permittedSubclasses : Option.Rel List.Perm a.permittedSubclasses b.permittedSubclasses
  fields : PairUp Field.Permuted a.fields b.fields
  methods : PairUp Method.Permuted a.methods b.methods

section Refl

theorem Entity.Permuted.refl (e : Entity) : e.Permuted e := ⟨rfl, rfl, rfl, .refl e.metadata⟩

theorem Field.Permuted.refl (f : Field) : f.Permuted f := ⟨.refl f.entity, rfl, rfl⟩

theorem TryCatchBlock.Permuted.refl (block : TryCatchBlock) : block.Permuted block :=
  ⟨rfl, rfl, rfl, rfl, optionRel_refl (pairUp_refl TypeAnnotationUse.Permuted.refl) _,
    optionRel_refl (pairUp_refl TypeAnnotationUse.Permuted.refl) _⟩

theorem Method.Permuted.refl (m : Method) : m.Permuted m where
  entity := .refl m.entity
  descriptor := rfl
  exceptions := .refl m.exceptions
  parameters := rfl
  annotationDefault := optionRel_refl ElementValue.Permuted.refl _
  visibleAnnotableCount := rfl
  visibleParameterAnnotations := .refl _
  invisibleAnnotableCount := rfl
  invisibleParameterAnnotations := .refl _
  instructions := rfl
  tryCatchBlocks := pairUp_refl TryCatchBlock.Permuted.refl _
  maxStack := rfl
  maxLocals := rfl
  localVariables := optionRel_refl List.Perm.refl _
  visibleLocalVariableAnnotations :=
    optionRel_refl (pairUp_refl LocalVariableAnnotationUse.Permuted.refl) _
  invisibleLocalVariableAnnotations :=
    optionRel_refl (pairUp_refl LocalVariableAnnotationUse.Permuted.refl) _

theorem ClassFile.Permuted.refl (c : ClassFile) : c.Permuted c where
  entity := .refl c.entity
  version := rfl
  superName := rfl
  interfaces := .refl c.interfaces
  sourceFile := rfl
  sourceDebug := rfl
  outerClass := rfl
  outerMethod := rfl
  outerMethodDescriptor := rfl
  innerClasses := .refl c.innerClasses
  nestHost := rfl
  nestMembers := optionRel_refl List.Perm.refl _
  permittedSubclasses := optionRel_refl List.Perm.refl _
  fields := pairUp_refl Field.Permuted.refl _
  methods := pairUp_refl Method.Permuted.refl _

end Refl

def TryCatchBlock.values (block : TryCatchBlock) : List ElementValue :=
  valuesIn TypeAnnotationUse.toValue block.visibleTypeAnnotations ++
    valuesIn TypeAnnotationUse.toValue block.invisibleTypeAnnotations

namespace Method

def headerValues (m : Method) : List ElementValue :=
  m.metadata.values ++ ParameterAnnotations.values m.visibleParameterAnnotations ++
    ParameterAnnotations.values m.invisibleParameterAnnotations

def bodyValues (m : Method) : List ElementValue :=
  m.tryCatchBlocks.flatMap TryCatchBlock.values ++
    valuesIn LocalVariableAnnotationUse.toValue m.visibleLocalVariableAnnotations ++
    valuesIn LocalVariableAnnotationUse.toValue m.invisibleLocalVariableAnnotations

/-- The annotations that a method carries anywhere, with the value that it gives by default. -/
def values (m : Method) : List ElementValue :=
  m.headerValues ++ m.bodyValues ++ m.annotationDefault.toList

end Method

/-- The annotations in a class, wherever they are. -/
def ClassFile.values (c : ClassFile) : List ElementValue :=
  c.metadata.values ++ c.fields.flatMap (fun f => f.metadata.values) ++
    c.methods.flatMap Method.values

theorem Entity.compare_of_permuted {a b : Entity} (h : a.Permuted b)
    (hv : ∀ v ∈ a.metadata.values, ¬ v.RepeatsName) : a.compare ctx b = .eq := by
  simp only [Entity.compare, Ordering.then_eq_eq, unless_eq_eq]
  exact ⟨.inr (ReflCmp.cmp_eq_of_eq h.name), .inr (ReflCmp.cmp_eq_of_eq h.access),
    .inr (ReflCmp.cmp_eq_of_eq h.signature), Metadata.compare_of_permuted h.metadata hv⟩

theorem Field.compare_of_permuted {a b : Field} (h : a.Permuted b)
    (hv : ∀ v ∈ a.metadata.values, ¬ v.RepeatsName) : a.compare ctx b = .eq := by
  simp only [Field.compare, Ordering.then_eq_eq, unless_eq_eq]
  exact ⟨.inr (ReflCmp.cmp_eq_of_eq h.entity.name), .inr (ReflCmp.cmp_eq_of_eq h.descriptor),
    Entity.compare_of_permuted h.entity hv, .inr (ReflCmp.cmp_eq_of_eq h.value)⟩

theorem TryCatchBlock.compare_of_permuted {a b : TryCatchBlock} (h : a.Permuted b)
    (hv : ∀ v ∈ a.values, ¬ v.RepeatsName) : a.compare ctx b = .eq := by
  rw [values, List.forall_mem_append] at hv
  obtain ⟨hvisible, hinvisible⟩ := hv
  simp only [TryCatchBlock.compare, Ordering.then_eq_eq, unless_eq_eq]
  exact ⟨ReflCmp.cmp_eq_of_eq h.start, ReflCmp.cmp_eq_of_eq h.stop,
    ReflCmp.cmp_eq_of_eq h.handler, ReflCmp.cmp_eq_of_eq h.catchType,
    .inr (compareTypeAnnotations_of_permuted h.visibleTypeAnnotations hvisible),
    .inr (compareTypeAnnotations_of_permuted h.invisibleTypeAnnotations hinvisible)⟩

namespace Method

variable {a b : Method}

theorem compareHeaders_of_permuted (h : a.Permuted b)
    (hv : ∀ v ∈ a.headerValues, ¬ v.RepeatsName) : compareHeaders ctx a b = .eq := by
  simp only [headerValues, List.forall_mem_append] at hv
  obtain ⟨⟨hmetadata, hvisible⟩, hinvisible⟩ := hv
  simp only [compareHeaders, Ordering.then_eq_eq, unless_eq_eq]
  exact ⟨.inr (ReflCmp.cmp_eq_of_eq h.entity.name), .inr (ReflCmp.cmp_eq_of_eq h.descriptor),
    Entity.compare_of_permuted h.entity hmetadata, .inr (compareUnordered_of_perm h.exceptions),
    .inr (ReflCmp.cmp_eq_of_eq h.parameters), .inr (ReflCmp.cmp_eq_of_eq h.visibleAnnotableCount),
    .inr (ReflCmp.cmp_eq_of_eq h.invisibleAnnotableCount),
    .inr (compareParameterAnnotations_of_permuted h.visibleParameterAnnotations hvisible),
    .inr (compareParameterAnnotations_of_permuted h.invisibleParameterAnnotations hinvisible)⟩

/-- The labels in both bodies are the same, so any context will do. -/
theorem compareBodies_of_permuted (h : a.Permuted b)
    (hv : ∀ v ∈ a.bodyValues, ¬ v.RepeatsName) : compareBodies ctx a b = .eq := by
  simp only [bodyValues, List.forall_mem_append] at hv
  obtain ⟨⟨hblocks, hvisible⟩, hinvisible⟩ := hv
  have hpairs : PairUp (fun s t => s.compare ctx.forRanges t = .eq) a.tryCatchBlocks
      b.tryCatchBlocks := by
    refine pairUp_imp (fun s hs t _ hst => ?_) h.tryCatchBlocks
    exact TryCatchBlock.compare_of_permuted hst fun v hmem =>
      hblocks v (List.mem_flatMap.mpr ⟨s, hs, hmem⟩)
  have huses {o p : Option (List LocalVariableAnnotationUse)}
      (h : Option.Rel (PairUp LocalVariableAnnotationUse.Permuted) o p)
      (hv : ∀ v ∈ valuesIn LocalVariableAnnotationUse.toValue o, ¬ v.RepeatsName) :
      compareOptional (compareUnordered (LocalVariableAnnotationUse.compare ctx)) o p = .eq :=
    compareOptionalUnordered_of_pairUp
      (fun _ _ hab => LocalVariableAnnotationUse.compare_of_permuted hab) h hv
  simp only [compareBodies, Ordering.then_eq_eq, unless_eq_eq]
  exact ⟨.inr (ReflCmp.cmp_eq_of_eq h.instructions),
    .inr (ClassMatch.compareUnordered_eq_eq.mpr hpairs),
    .inr (ReflCmp.cmp_eq_of_eq h.maxLocals), .inr (ReflCmp.cmp_eq_of_eq h.maxStack),
    .inr (compareOptionalUnordered_of_perm h.localVariables),
    .inr (huses h.visibleLocalVariableAnnotations hvisible),
    .inr (huses h.invisibleLocalVariableAnnotations hinvisible)⟩

/-- The tables refer to the same labels, if not in the same order. -/
theorem Permuted.anchors_perm (h : a.Permuted b) : a.anchors.Perm b.anchors := by
  have hblocks : PairUp (fun l m => l = m) (a.tryCatchBlocks.flatMap TryCatchBlock.labels)
      (b.tryCatchBlocks.flatMap TryCatchBlock.labels) := by
    refine pairUp_flatMap (fun s t hst => ?_) h.tryCatchBlocks
    exact .cons hst.start (.cons hst.stop (.cons hst.handler .nil))
  have hvariables : (a.localVariables.getD []).Perm (b.localVariables.getD []) :=
    optionRel_getD h.localVariables .nil
  have huses {o p : Option (List LocalVariableAnnotationUse)}
      (h : Option.Rel (PairUp LocalVariableAnnotationUse.Permuted) o p) :
      ((o.getD []).flatMap LocalVariableAnnotationUse.labels).Perm
        ((p.getD []).flatMap LocalVariableAnnotationUse.labels) := by
    have hpairs := optionRel_getD h (pairUp_refl LocalVariableAnnotationUse.Permuted.refl [])
    refine pairUp_eq_iff.mp (pairUp_flatMap (fun u v huv => ?_) hpairs)
    rw [LocalVariableAnnotationUse.labels, huv.starts, huv.ends]
    exact forall₂_self (fun _ => rfl) _
  rw [anchors, anchors, h.instructions]
  refine .append (.append (.append (.append (.refl _) ?_) ?_) ?_) ?_
  · exact pairUp_eq_iff.mp hblocks
  · exact hvariables.flatMap_right _
  · exact huses h.visibleLocalVariableAnnotations
  · exact huses h.invisibleLocalVariableAnnotations

theorem Permuted.labels_perm (h : a.Permuted b) : a.labels.Perm b.labels := by
  rw [labels, labels, h.instructions]
  exact h.anchors_perm.append_left _

/-- The same labels are needed in both methods, so the same instructions stay. -/
theorem Permuted.view (h : a.Permuted b) : (ctx.view a).Permuted (ctx.view b) := by
  have hinstructions : (ctx.view a).instructions = (ctx.view b).instructions := by
    unfold Context.view
    split
    · rw [withoutLineNumbers, withoutLineNumbers, h.instructions]
      refine List.filter_congr fun i _ => Instruction.isKept_congr fun l _ => ?_
      exact h.anchors_perm.mem_iff
    · exact h.instructions
  rw [view_eq_withInstructions ctx a, view_eq_withInstructions ctx b, hinstructions]
  exact { h with instructions := rfl }

theorem Permuted.declaration_eq (h : a.Permuted b) : a.declaration = b.declaration := by
  rw [declaration, declaration, show a.name = b.name from h.entity.name, h.descriptor]

theorem values_view (ctx : Context) (m : Method) : (ctx.view m).values = m.values := by
  unfold Context.view
  split <;> rfl

theorem compare_of_permuted (h : a.Permuted b) (hv : ∀ v ∈ a.values, ¬ v.RepeatsName) :
    a.compare ctx b = .eq := by
  rw [← values_view ctx] at hv
  simp only [values, List.forall_mem_append] at hv
  obtain ⟨⟨hheaders, hbodies⟩, hdefault⟩ := hv
  simp only [Method.compare, compareViews, Ordering.then_eq_eq, unless_eq_eq]
  exact ⟨compareHeaders_of_permuted h.view hheaders, compareBodies_of_permuted h.view hbodies,
    .inr (compareOptionalValues_of_permuted h.view.annotationDefault hdefault)⟩

end Method

/-- Methods whose parts change places have the labels that they had, in the places where they
were. -/
theorem Context.LabelConsistent.append_permuted {ms ns : List Method}
    (hl : ctx.LabelConsistent {m | m ∈ ms}) (h : PairUp Method.Permuted ms ns) :
    ctx.LabelConsistent {m | m ∈ ms ++ ns} := by
  have hsource (n : Method) (hn : n ∈ ms ++ ns) : ∃ m ∈ ms,
      (ctx.view m).instructions = (ctx.view n).instructions ∧
        (ctx.view m).labels.Perm (ctx.view n).labels := by
    rcases List.mem_append.mp hn with hn | hn
    · exact ⟨n, hn, rfl, .refl _⟩
    · obtain ⟨m, hm, hmn⟩ := (exists_mem_of_pairUp h).2 n hn
      exact ⟨m, hm, hmn.view.instructions, hmn.view.labels_perm⟩
  intro n hn n' hn' l hln hln'
  obtain ⟨m, hm, hinstructions, hlabels⟩ := hsource n hn
  obtain ⟨m', hm', hinstructions', hlabels'⟩ := hsource n' hn'
  rw [← hinstructions, ← hinstructions']
  exact hl m hm m' hm' l (hlabels.mem_iff.mpr hln) (hlabels'.mem_iff.mpr hln')

namespace ClassFile

variable {a b : ClassFile}

theorem compareHeaders_of_permuted (h : a.Permuted b)
    (hv : ∀ v ∈ a.metadata.values, ¬ v.RepeatsName) :
    compareHeaders ctx { a with fields := [] } { b with fields := [] } = .eq := by
  simp only [compareHeaders, Ordering.then_eq_eq, unless_eq_eq]
  exact ⟨Entity.compare_of_permuted h.entity hv, .inr (ReflCmp.cmp_eq_of_eq h.version),
    .inr (ReflCmp.cmp_eq_of_eq h.superName), .inr (compareUnordered_of_perm h.interfaces),
    .inr (ReflCmp.cmp_eq_of_eq h.sourceFile), .inr (ReflCmp.cmp_eq_of_eq h.sourceDebug),
    .inr (ReflCmp.cmp_eq_of_eq h.outerClass), .inr (ReflCmp.cmp_eq_of_eq h.outerMethod),
    .inr (ReflCmp.cmp_eq_of_eq h.outerMethodDescriptor),
    .inr (compareUnordered_of_perm h.innerClasses), .inr (ReflCmp.cmp_eq_of_eq h.nestHost),
    .inr (compareOptionalUnordered_of_perm h.nestMembers),
    .inr (compareOptionalUnordered_of_perm h.permittedSubclasses), .inr rfl⟩

/-- The order of what is unordered does not matter at any level: the class passes whatever the
context leaves out and however it compares methods. -/
theorem passes_check_of_permuted (h : a.Permuted b) (hf : a.fieldNames.Nodup)
    (hd : a.declarations.Nodup) (hv : ∀ v ∈ a.values, ¬ v.RepeatsName)
    (hl : ctx.fixed = true ∨ ctx.LabelConsistent {m | m ∈ a.methods}) (trail : Trail) :
    ((a.check ctx b).run trail).passes = true := by
  simp only [values, List.forall_mem_append, List.forall_mem_flatMap] at hv
  obtain ⟨⟨hclass, hfieldValues⟩, hmethodValues⟩ := hv
  have hfields : PairUp (fun f g => f.name = g.name ∧ f.compare ctx g = .eq) a.fields b.fields :=
    pairUp_imp (fun f hmem g _ hfg =>
      ⟨hfg.entity.name, Field.compare_of_permuted hfg (hfieldValues f hmem)⟩) h.fields
  have hmethods : PairUp (fun m n => m.declaration = n.declaration ∧ m.compare ctx n = .eq)
      a.methods b.methods :=
    pairUp_imp (fun m hmem n _ hmn =>
      ⟨hmn.declaration_eq, Method.compare_of_permuted hmn (hmethodValues m hmem)⟩) h.methods
  have hl' : ctx.fixed = true ∨ ctx.LabelConsistent {m | m ∈ a.methods ++ b.methods} :=
    hl.imp_right fun hl => hl.append_permuted h.methods
  refine passes_check_iff_agrees.mpr ⟨compareHeaders_of_permuted h hclass, fun _ => ?_,
    fun _ _ => ?_, fun _ _ => ?_⟩
  · exact membersMatch_of_pairUp hf hfields compareUnordered_eq_eq.mpr
  · exact perm_map_of_pairUp (pairUp_imp (fun _ _ _ _ hmn => hmn.1) hmethods)
  · exact membersMatch_of_pairUp hd hmethods (Method.compareUnordered_eq_eq hl').mpr

/-- A field whose annotation holds another one. -/
def nestingField (elements : List (String × ElementValue)) : Field :=
  { Field.bare "x" "I" with
    metadata := { Metadata.absent with
      visibleAnnotations := some [⟨"LA;", [("value", .nested "LB;" elements)]⟩] } }

/-- A method with blocks at labels that it places. -/
def guardedMethod (ls : List Label) : Method :=
  { Method.bare "m" "()V" [.label ⟨0⟩, .label ⟨1⟩] with
    tryCatchBlocks := ls.map TryCatchBlock.bare }

/-- Members trade places, and so do the blocks of a method and the elements of an annotation that
is itself the value of an element. -/
theorem passes_check_of_traded_parts :
    (((bare "C" [nestingField [("p", .int 1), ("q", .int 2)], .bare "y" "J"]
        [guardedMethod [⟨0⟩, ⟨1⟩], .bare "n" "()V" []]).check .plain
      (bare "C" [.bare "y" "J", nestingField [("q", .int 2), ("p", .int 1)]]
        [.bare "n" "()V" [], guardedMethod [⟨1⟩, ⟨0⟩]])).run .empty).passes = true := by
  have hnested : (nestingField [("p", .int 1), ("q", .int 2)]).Permuted
      (nestingField [("q", .int 2), ("p", .int 1)]) := by
    have huse : AnnotationUse.Permuted
        ⟨"LA;", [("value", .nested "LB;" [("p", .int 1), ("q", .int 2)])]⟩
        ⟨"LA;", [("value", .nested "LB;" [("q", .int 2), ("p", .int 1)])]⟩ :=
      @ElementValue.Permuted.within "LA;" "value" [] [] _ _ (.elements (.swap _ _ _))
    have hannotations := Option.Rel.some (pairUp_of_forall₂ (.cons huse .nil))
    exact ⟨⟨rfl, rfl, rfl, ⟨hannotations, .none, .none, .none, .none⟩⟩, rfl, rfl⟩
  have hguarded : (guardedMethod [⟨0⟩, ⟨1⟩]).Permuted (guardedMethod [⟨1⟩, ⟨0⟩]) :=
    { Method.Permuted.refl (guardedMethod [⟨0⟩, ⟨1⟩]) with
      tryCatchBlocks := pairUp_of_perm (fun s _ => .refl s) (.swap _ _ _) }
  refine passes_check_of_permuted ?_ (by decide) (by decide) ?_ (.inr (by decide)) .empty
  · exact { Permuted.refl (bare "C" [] []) with
      fields := ⟨_, .cons hnested (.cons (.refl _) .nil), .swap _ _ _⟩
      methods := ⟨_, .cons hguarded (.cons (.refl _) .nil), .swap _ _ _⟩ }
  · refine List.forall_mem_singleton.mpr ?_
    simp only [AnnotationUse.toValue, ElementValue.not_repeatsName_nested, List.forall_mem_singleton,
      List.forall_mem_cons]
    refine ⟨by decide, by decide, ?_, ?_⟩
    all_goals rintro ⟨⟩

end ClassFile

end ClassMatch
