import ClassMatch.Proofs.LineNumbers.Tables
import ClassMatch.Proofs.Options.Added
import ClassMatch.Proofs.Options.SameBut

/-!
What options hide makes no difference. When hidden parts are replaced, on either side and however
deep, nodes compare as before and pass where they did before. Names and descriptors are an exception
while methods are told apart by these alone: then the declarations have to stay.
-/
namespace ClassMatch

open Std

variable {ctx : Context} {hidden : Set CheckOption} {trail : Trail}

/-- Equal elements may be put in place of both. -/
theorem cmp_congr {α : Type} {cmp : α → α → Ordering} [TransCmp cmp] {a a' b b' : α}
    (ha : cmp a a' = .eq) (hb : cmp b b' = .eq) : cmp a' b' = cmp a b := by
  rw [TransCmp.congr_left ha, TransCmp.congr_right hb]

namespace Method

variable {a a' b b' : Method}

/-- Labels are referred to as before, so the same instructions stay. -/
theorem SameBut.view (h : a.SameBut hidden a') :
    (ctx.view a).SameBut hidden (ctx.view a') := by
  have hinstructions : (ctx.view a).instructions = (ctx.view a').instructions := by
    unfold Context.view
    split
    · rw [withoutLineNumbers, withoutLineNumbers, h.anchors_eq, h.instructions]
    · exact h.instructions
  rw [view_eq_withInstructions ctx a, view_eq_withInstructions ctx a', hinstructions]
  exact { h with instructions := rfl }

theorem SameBut.declaration_eq (hname : .ignoreName ∉ hidden)
    (hdescriptor : .ignoreDescriptor ∉ hidden) (h : a.SameBut hidden a') :
    a.declaration = a'.declaration := by
  rw [declaration, declaration, show a.name = a'.name from h.entity.name hname,
    h.descriptor hdescriptor]

theorem compare_congr (hh : ∀ o ∈ hidden, ctx.has o = true) (ha : a.SameBut hidden a')
    (hb : b.SameBut hidden b') : a'.compare ctx b' = a.compare ctx b := by
  let body := ctx.forInstructions (ctx.view a).instructions (ctx.view b).instructions
  have hbody (o : CheckOption) (ho : o ∈ hidden) : body.has o = true := by
    rw [Context.has_forInstructions]
    exact hh o ho
  -- The same labels stand in the same places, so one context knows those of all four methods.
  have hcontext : ctx.forInstructions (ctx.view a').instructions (ctx.view b').instructions =
      body := by
    rw [← ha.view.instructions, ← hb.view.instructions]
  rw [Method.compare, compareViews_eq_compareResolved, hcontext, Method.compare,
    compareViews_eq_compareResolved]
  exact cmp_congr (compareResolved_of_sameBut hh hbody ha.view)
    (compareResolved_of_sameBut hh hbody hb.view)

end Method

/-- Methods count, and nothing but their declarations. -/
def Context.TellsDeclarations (ctx : Context) : Prop :=
  ctx.has .ignoreMethods = false ∧ ctx.mode = .declarationsOnly

namespace ClassFile

variable {a a' b b' : ClassFile}

theorem SameBut.declarations_eq (hname : .ignoreName ∉ hidden)
    (hdescriptor : .ignoreDescriptor ∉ hidden) (hm : .ignoreMethods ∉ hidden)
    (h : a.SameBut hidden a') : a.declarations = a'.declarations :=
  map_eq_map_iff_forall₂.mpr
    ((h.methods hm).imp fun _ _ => Method.SameBut.declaration_eq hname hdescriptor)

/-- The class without its fields. -/
theorem SameBut.withoutFields (h : a.SameBut hidden a') :
    SameBut hidden { a with fields := [] } { a' with fields := [] } :=
  { h with fields := fun _ => .nil }

section Congr

variable (hh : ∀ o ∈ hidden, ctx.has o = true)

include hh

theorem passes_checkHeaders_congr (ha : a.SameBut hidden a') (hb : b.SameBut hidden b') :
    ((checkHeaders ctx a' b').run trail).passes = true ↔
      ((checkHeaders ctx a b).run trail).passes = true := by
  rw [passes_checkHeaders_iff, passes_checkHeaders_iff,
    cmp_congr (compareHeaders_of_sameBut hh ha.withoutFields)
      (compareHeaders_of_sameBut hh hb.withoutFields)]

theorem pairedFields_congr (hn : ctx.has .ignoreName = false)
    (ha : List.Forall₂ (Field.SameBut hidden) a.fields a'.fields)
    (hb : List.Forall₂ (Field.SameBut hidden) b.fields b'.fields) :
    a'.fieldNames.Perm b'.fieldNames ∧ a'.PairedFields ctx b' ↔
      a.fieldNames.Perm b.fieldNames ∧ a.PairedFields ctx b := by
  have hname (f f' : Field) (h : f.SameBut hidden f') : f.name = f'.name :=
    h.entity.name (not_mem_of_has_eq_false hh hn)
  have hnames {fs fs' : List Field} (h : List.Forall₂ (Field.SameBut hidden) fs fs') :
      fs.map Field.name = fs'.map Field.name := map_eq_map_iff_forall₂.mpr (h.imp hname)
  have hequal (f f' g g' : Field) (hf : f.SameBut hidden f') (hg : g.SameBut hidden g') :
      f'.compare ctx g' = .eq ↔ f.compare ctx g = .eq := by
    rw [cmp_congr (Field.compare_of_sameBut hh hf) (Field.compare_of_sameBut hh hg)]
  rw [fieldNames, fieldNames, fieldNames, fieldNames, hnames ha, hnames hb]
  exact and_congr_right fun _ => forall_pairsByKey_iff hname hequal ha hb

theorem pairedMethods_congr (hn : ctx.has .ignoreName = false)
    (hd : ctx.has .ignoreDescriptor = false)
    (ha : List.Forall₂ (Method.SameBut hidden) a.methods a'.methods)
    (hb : List.Forall₂ (Method.SameBut hidden) b.methods b'.methods) :
    a'.declarations.Perm b'.declarations ∧ a'.PairedMethods ctx b' ↔
      a.declarations.Perm b.declarations ∧ a.PairedMethods ctx b := by
  have hdeclaration (m m' : Method) (h : m.SameBut hidden m') : m.declaration = m'.declaration :=
    h.declaration_eq (not_mem_of_has_eq_false hh hn) (not_mem_of_has_eq_false hh hd)
  have hdeclarations {ms ms' : List Method} (h : List.Forall₂ (Method.SameBut hidden) ms ms') :
      ms.map Method.declaration = ms'.map Method.declaration :=
    map_eq_map_iff_forall₂.mpr (h.imp hdeclaration)
  have hequal (m m' n n' : Method) (hm : m.SameBut hidden m') (hn : n.SameBut hidden n') :
      m'.compare ctx n' = .eq ↔ m.compare ctx n = .eq := by
    rw [Method.compare_congr hh hm hn]
  rw [declarations, declarations, declarations, declarations, hdeclarations ha, hdeclarations hb]
  exact and_congr_right fun _ => forall_pairsByKey_iff hdeclaration hequal ha hb

theorem passes_checkFields_congr (hi : ctx.has .ignoreFields = false) (ha : a.SameBut hidden a')
    (hb : b.SameBut hidden b') : ((checkFields ctx a' b').run trail).passes = true ↔
      ((checkFields ctx a b).run trail).passes = true := by
  have has := ha.fields (not_mem_of_has_eq_false hh hi)
  have hbs := hb.fields (not_mem_of_has_eq_false hh hi)
  cases hn : ctx.has .ignoreName with
  | true =>
    have hfield (f f' : Field) (h : f.SameBut hidden f') : f.compare ctx f' = .eq :=
      Field.compare_of_sameBut hh h
    rw [passes_checkFields_of_ignored hn, passes_checkFields_of_ignored hn,
      cmp_congr (compareUnordered_of_forall₂ hfield has) (compareUnordered_of_forall₂ hfield hbs)]
  | false =>
    rw [passes_checkFields_of_pairs ⟨hi, hn⟩, passes_checkFields_of_pairs ⟨hi, hn⟩,
      pairedFields_congr hh hn has hbs]

/-- Whole methods are compared as before, whether or not their order is a total one. -/
theorem compareUnordered_methods_congr
    (ha : List.Forall₂ (Method.SameBut hidden) a.methods a'.methods)
    (hb : List.Forall₂ (Method.SameBut hidden) b.methods b'.methods) :
    compareUnordered (Method.compare ctx) a'.methods b'.methods =
      compareUnordered (Method.compare ctx) a.methods b.methods := by
  have hmethod (m m' n n' : Method) (hm : m.SameBut hidden m') (hn : n.SameBut hidden n') :
      m.compare ctx n = m'.compare ctx n' := (Method.compare_congr hh hm hn).symm
  exact (compareUnordered_related hmethod ha hb).symm

theorem passes_checkMethods_congr (hi : ctx.has .ignoreMethods = false)
    (hda : ctx.mode = .declarationsOnly → a.declarations.Perm a'.declarations)
    (hdb : ctx.mode = .declarationsOnly → b.declarations.Perm b'.declarations)
    (ha : a.SameBut hidden a') (hb : b.SameBut hidden b') :
    ((checkMethods ctx a' b').run trail).passes = true ↔
      ((checkMethods ctx a b).run trail).passes = true := by
  have has := ha.methods (not_mem_of_has_eq_false hh hi)
  have hbs := hb.methods (not_mem_of_has_eq_false hh hi)
  by_cases hm : ctx.mode = .declarationsOnly
  · rw [passes_checkMethods_of_declarations hm, passes_checkMethods_of_declarations hm,
      (hda hm).congr_left, (hdb hm).congr_right]
  by_cases hp : ctx.PairsMethods
  · rw [passes_checkMethods_of_pairs hp, passes_checkMethods_of_pairs hp,
      pairedMethods_congr hh hp.2.2.1 hp.2.2.2 has hbs]
  · rw [passes_checkMethods_of_unpaired hi hm hp, passes_checkMethods_of_unpaired hi hm hp,
      compareUnordered_methods_congr hh has hbs]

theorem passes_check_congr
    (hda : ctx.TellsDeclarations → a.declarations.Perm a'.declarations)
    (hdb : ctx.TellsDeclarations → b.declarations.Perm b'.declarations)
    (ha : a.SameBut hidden a') (hb : b.SameBut hidden b') :
    ((a'.check ctx b').run trail).passes = ((a.check ctx b).run trail).passes := by
  rw [Bool.eq_iff_iff, passes_check_iff_parts, passes_check_iff_parts,
    passes_checkHeaders_congr hh ha hb]
  refine and_congr_right fun _ => and_congr ?_ ?_
  · cases hi : ctx.has .ignoreFields with
    | true => simp
    | false => rw [passes_checkFields_congr hh hi ha hb]
  · cases hi : ctx.has .ignoreMethods with
    | true => simp
    | false =>
      rw [passes_checkMethods_congr hh hi (fun hm => hda ⟨hi, hm⟩) (fun hm => hdb ⟨hi, hm⟩) ha hb]

theorem compare_congr (hda : ctx.TellsDeclarations → a.declarations.Perm a'.declarations)
    (hdb : ctx.TellsDeclarations → b.declarations.Perm b'.declarations)
    (ha : a.SameBut hidden a') (hb : b.SameBut hidden b') :
    a'.compare ctx b' = a.compare ctx b := by
  have hheaders : compareHeaders ctx a' b' = compareHeaders ctx a b :=
    cmp_congr (compareHeaders_of_sameBut hh ha) (compareHeaders_of_sameBut hh hb)
  rw [compare, hheaders, compare, Context.unless, Context.unless]
  cases hi : ctx.has .ignoreMethods with
  | true => rfl
  | false =>
    have hmethods : compareMethods ctx a' b' = compareMethods ctx a b := by
      by_cases hm : ctx.mode = .declarationsOnly
      · have hdeclarations : compareUnordered Ord.compare a'.declarations b'.declarations =
            compareUnordered Ord.compare a.declarations b.declarations :=
          cmp_congr (compareUnordered_of_perm (hda ⟨hi, hm⟩))
            (compareUnordered_of_perm (hdb ⟨hi, hm⟩))
        simpa only [compareMethods, hm] using hdeclarations
      · rw [compareMethods_of_whole hm, compareMethods_of_whole hm,
          compareUnordered_methods_congr hh (ha.methods (not_mem_of_has_eq_false hh hi))
            (hb.methods (not_mem_of_has_eq_false hh hi))]
    rw [hmethods]

end Congr

end ClassFile

namespace Kind

/-- Nodes that are the same but for what the options hide. Some kinds have nothing to hide. -/
def SameBut (hidden : Set CheckOption) : (k : Kind) → k.Node → k.Node → Prop
  | elementValue, a, b => ElementValue.SameBut hidden a b
  | annotationUse, a, b => AnnotationUse.SameBut hidden a b
  | typeAnnotationUse, a, b => TypeAnnotationUse.SameBut hidden a b
  | localVariableAnnotationUse, a, b => LocalVariableAnnotationUse.SameBut hidden a b
  | tryCatchBlock, a, b => TryCatchBlock.SameBut hidden a b
  | field, a, b => Field.SameBut hidden a b
  | method, a, b => Method.SameBut hidden a b
  | classFile, a, b => ClassFile.SameBut hidden a b
  | _, a, b => a = b

theorem compare_of_sameBut {k : Kind} (hm : k ≠ .method) (hc : k ≠ .classFile)
    (hh : ∀ o ∈ hidden, ctx.has o = true) {a b : k.Node} (h : k.SameBut hidden a b) :
    k.compare ctx a b = .eq := by
  have hself := transCmp_compare ctx hm hc
  cases k with
  | elementValue => exact ElementValue.compare_of_sameBut hh h
  | annotationUse => exact AnnotationUse.compare_of_sameBut hh h
  | typeAnnotationUse => exact TypeAnnotationUse.compare_of_sameBut hh h
  | localVariableAnnotationUse => exact LocalVariableAnnotationUse.compare_of_sameBut hh h
  | tryCatchBlock => exact TryCatchBlock.compare_of_sameBut hh h
  | field => exact Field.compare_of_sameBut hh h
  | method => exact absurd rfl hm
  | classFile => exact absurd rfl hc
  | _ => exact ReflCmp.cmp_eq_of_eq h

theorem compare_congr {k : Kind} (hc : k ≠ .classFile) (hh : ∀ o ∈ hidden, ctx.has o = true)
    {a a' b b' : k.Node} (ha : k.SameBut hidden a a') (hb : k.SameBut hidden b b') :
    k.compare ctx a' b' = k.compare ctx a b := by
  by_cases hm : k = .method
  · subst hm
    exact Method.compare_congr hh ha hb
  · have := transCmp_compare ctx hm hc
    exact cmp_congr (compare_of_sameBut hm hc hh ha) (compare_of_sameBut hm hc hh hb)

/-- Nodes in which hidden parts are replaced compare and pass as they did before, as long as names
and descriptors stay. -/
theorem unchanged_by_hidden_parts {k : Kind} (hh : ∀ o ∈ hidden, ctx.has o = true)
    (hname : .ignoreName ∉ hidden) (hdescriptor : .ignoreDescriptor ∉ hidden)
    {a a' b b' : k.Node} (ha : k.SameBut hidden a a') (hb : k.SameBut hidden b b') :
    k.compare ctx a' b' = k.compare ctx a b ∧ ∀ trail : Trail,
      ((k.check ctx a' b').run trail).passes = ((k.check ctx a b).run trail).passes := by
  by_cases hc : k = .classFile
  · subst hc
    have hdeclarations {c c' : ClassFile} (h : c.SameBut hidden c') (ht : ctx.TellsDeclarations) :
        c.declarations.Perm c'.declarations := by
      rw [h.declarations_eq hname hdescriptor (not_mem_of_has_eq_false hh ht.1)]
    exact ⟨ClassFile.compare_congr hh (hdeclarations ha) (hdeclarations hb) ha hb,
      fun trail => ClassFile.passes_check_congr hh (hdeclarations ha) (hdeclarations hb) ha hb⟩
  · have heq := compare_congr hc hh ha hb
    refine ⟨heq, fun trail => ?_⟩
    rw [Bool.eq_iff_iff, passes_check_iff_equal hc, passes_check_iff_equal hc, heq]

/-- A class with a field that has an annotation with these values. -/
def annotatedClass (elements : List (String × ElementValue)) : ClassFile :=
  .bare "C" [{ Field.bare "x" "I" with
    metadata := { Metadata.absent with visibleAnnotations := some [⟨"LA;", elements⟩] } }] []

/-- What an annotation deep in a class gives for its elements is replaced on one side. -/
theorem unchanged_by_hidden_annotation_values :
    Kind.compare .classFile (Context.plain.adding .ignoreAnnotationValues)
        (annotatedClass [("v", .nested "LB;" [])]) (annotatedClass []) = .eq ∧
      ∀ trail : Trail,
        ((Kind.check .classFile (Context.plain.adding .ignoreAnnotationValues)
          (annotatedClass [("v", .nested "LB;" [])]) (annotatedClass [])).run trail).passes =
            true := by
  have huse : AnnotationUse.SameBut {.ignoreAnnotationValues} ⟨"LA;", []⟩
      ⟨"LA;", [("v", .nested "LB;" [])]⟩ := ⟨rfl, fun h => absurd rfl h⟩
  have hmetadata : Metadata.SameBut {.ignoreAnnotationValues}
      { Metadata.absent with visibleAnnotations := some [⟨"LA;", []⟩] }
      { Metadata.absent with visibleAnnotations := some [⟨"LA;", [("v", .nested "LB;" [])]⟩] } :=
    { Metadata.SameBut.refl .absent with visibleAnnotations := fun _ => .some (.cons huse .nil) }
  have hclass : Kind.SameBut {.ignoreAnnotationValues} .classFile (annotatedClass [])
      (annotatedClass [("v", .nested "LB;" [])]) :=
    { ClassFile.SameBut.refl (annotatedClass []) with
      fields := fun _ => .cons ⟨⟨fun _ => rfl, fun _ => rfl, fun _ => rfl, hmetadata⟩,
        fun _ => rfl, fun _ => rfl⟩ .nil }
  have hself : Kind.SameBut {.ignoreAnnotationValues} .classFile (annotatedClass [])
      (annotatedClass []) := ClassFile.SameBut.refl _
  have hunchanged := @unchanged_by_hidden_parts (Context.plain.adding .ignoreAnnotationValues)
    {.ignoreAnnotationValues} .classFile (by simp [Context.has_adding]) (by simp) (by simp) _ _ _ _
    hclass hself
  exact ⟨hunchanged.1.trans (ClassFile.compare_self _ _),
    fun trail => (hunchanged.2 trail).trans (ClassFile.passes_check_self _ trail _)⟩

end Kind

end ClassMatch
