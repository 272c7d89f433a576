import ClassMatch.Check.Node
import ClassMatch.Proofs.Bare
import Mathlib

/-!
Checks under other names and representations. What nodes and labels are shown as decides nothing:
orders do not look at it, and a check puts it into messages and crumbs alone, so that it ends in the
same way and at the same depth.
-/
namespace ClassMatch

namespace Context

/-- The contexts leave out the same, know the same labels and pair methods in the same way. They may
differ in what they show nodes and labels as. -/
structure JudgesAlike (ctx ctx' : Context) : Prop where
  options : ctx'.options = ctx.options
  mode : ctx'.mode = ctx.mode
  indices : ctx'.indices = ctx.indices
  fixed : ctx'.fixed = ctx.fixed

/-- The context with other names for labels and other texts for nodes. -/
def shownBy (ctx : Context) (names : LabelNames) (texts : Representation) : Context :=
  { ctx with givenNames := names, representation := texts }

theorem JudgesAlike.eq_shownBy {ctx ctx' : Context} (h : ctx.JudgesAlike ctx') :
    ctx' = ctx.shownBy ctx'.givenNames ctx'.representation := by
  obtain ⟨_, _, _, _, _, _⟩ := ctx'
  obtain ⟨rfl, rfl, rfl, rfl⟩ := h
  rfl

variable (ctx : Context) (names : LabelNames) (texts : Representation)

theorem has_shownBy (o : CheckOption) : (ctx.shownBy names texts).has o = ctx.has o := rfl

theorem view_shownBy (m : Method) : (ctx.shownBy names texts).view m = ctx.view m := rfl

theorem forInstructions_shownBy (as bs : List Instruction) :
    (ctx.shownBy names texts).forInstructions as bs =
      (ctx.forInstructions as bs).shownBy names texts := by
  obtain ⟨_, _, _, fixed, _, _⟩ := ctx
  cases fixed <;> rfl

theorem forRanges_shownBy :
    (ctx.shownBy names texts).forRanges = ctx.forRanges.shownBy names texts := by
  unfold forRanges
  rw [has_shownBy]
  cases ctx.has .ignoreLineNumbers <;> rfl

end Context

section Orders

variable {ctx : Context} {names : LabelNames} {texts : Representation}

theorem Method.compareBodies_shownBy (a b : Method) :
    compareBodies (ctx.shownBy names texts) a b = compareBodies ctx a b := by
  unfold compareBodies
  rw [Context.forRanges_shownBy]
  rfl

theorem Method.compare_shownBy (a b : Method) :
    a.compare (ctx.shownBy names texts) b = a.compare ctx b := by
  unfold compare compareViews
  rw [Context.view_shownBy, Context.view_shownBy, Context.forInstructions_shownBy,
    compareBodies_shownBy]
  rfl

theorem ClassFile.compare_shownBy (a b : ClassFile) :
    a.compare (ctx.shownBy names texts) b = a.compare ctx b := by
  have hmethod : Method.compare (ctx.shownBy names texts) = Method.compare ctx :=
    funext₂ Method.compare_shownBy
  unfold compare compareMethods
  rw [hmethod]
  rfl

theorem Kind.compare_shownBy (k : Kind) :
    k.compare (ctx.shownBy names texts) = k.compare ctx := by
  funext a b
  cases k with
  | method => exact Method.compare_shownBy a b
  | classFile => exact ClassFile.compare_shownBy a b
  | _ => rfl

end Orders

/-- Both differences were found on behalf of the same comparator and at the same depth. -/
structure Failure.AtSamePlace (f g : Failure) : Prop where
  comparator : g.comparator = f.comparator
  depth : g.trail.crumbs.length = f.trail.crumbs.length

/-- Run at trails of the same length, both checks pass or both fail at the same place. -/
def Check.EndsAlike (c d : Check) : Prop :=
  ∀ t u : Trail, u.crumbs.length = t.crumbs.length →
    Option.Rel Failure.AtSamePlace (c.run t).failure (d.run u).failure

namespace Check.EndsAlike

theorem pass : EndsAlike .pass .pass := fun _ _ _ => .none

theorem log {events events' : List Event} : EndsAlike (.log events) (.log events') :=
  fun _ _ _ => .none

theorem fail {message message' : String} : EndsAlike (.fail message) (.fail message') :=
  fun _ _ h => .some ⟨rfl, h⟩

theorem failUsing {comparator message message' : String} :
    EndsAlike (.failUsing comparator message) (.failUsing comparator message') :=
  fun _ _ h => .some ⟨rfl, h⟩

theorem andThen {c c' d d' : Check} (hc : c.EndsAlike c') (hd : d.EndsAlike d') :
    (c.andThen d).EndsAlike (c'.andThen d') := by
  intro t u h
  have hfirst := hc t u h
  rcases hct : c.run t with ⟨events, _ | f⟩ <;> rcases hcu : c'.run u with ⟨events', _ | g⟩ <;>
    rw [hct, hcu] at hfirst
  · simpa only [Check.andThen, hct, hcu, Report.after] using hd t u h
  · cases hfirst
  · cases hfirst
  · simpa only [Check.andThen, hct, hcu] using hfirst

theorem all {cs ds : List Check} (h : List.Forall₂ EndsAlike cs ds) :
    EndsAlike (.all cs) (.all ds) := by
  induction h with
  | nil => exact pass
  | cons hc _ ih => exact hc.andThen ih

theorem enter {c d : Check} {crumb crumb' : String} (h : c.EndsAlike d) :
    EndsAlike (.enter crumb c) (.enter crumb' d) :=
  fun t u htu => h (t.push crumb) (u.push crumb') (by simp [Trail.push, htu])

theorem field {c d : Check} {part : String} (h : c.EndsAlike d) :
    EndsAlike (.field part c) (.field part d) := h.enter

theorem ite {c d c' d' : Check} {p : Prop} [Decidable p] (hc : c.EndsAlike d)
    (hc' : c'.EndsAlike d') : (if p then c else c').EndsAlike (if p then d else d') := by
  split
  · exact hc
  · exact hc'

theorem map {α : Type} {f g : α → Check} {as : List α} (h : ∀ a, (f a).EndsAlike (g a)) :
    EndsAlike (.all (as.map f)) (.all (as.map g)) :=
  all (List.forall₂_map_left_iff.mpr (List.forall₂_map_right_iff.mpr
    (List.forall₂_same.mpr fun a _ => h a)))

theorem passes_eq {c d : Check} (h : c.EndsAlike d) (trail : Trail) :
    (d.run trail).passes = (c.run trail).passes := by
  have hends := h trail trail rfl
  unfold Report.passes
  generalize (c.run trail).failure = o, (d.run trail).failure = o' at hends ⊢
  cases hends <;> rfl

theorem atSamePlace {c d : Check} (h : c.EndsAlike d) {trail : Trail} {f g : Failure}
    (hf : f ∈ (c.run trail).failure) (hg : g ∈ (d.run trail).failure) : f.AtSamePlace g := by
  have hends := h trail trail rfl
  rw [Option.mem_def.mp hf, Option.mem_def.mp hg] at hends
  cases hends with
  | some hplace => exact hplace

end Check.EndsAlike

open Check EndsAlike

/-- Values are shown in one way only. -/
theorem endsAlike_checkValue {α : Type} [DecidableEq α] [Shown α] (actual expected : α) :
    (checkValue actual expected).EndsAlike (checkValue actual expected) := .ite .pass .fail

section Checks

variable {ctx : Context} {names : LabelNames} {texts : Representation}

theorem endsAlike_checkUnless {c d : Check} {o : CheckOption} (h : c.EndsAlike d) :
    (ctx.checkUnless o c).EndsAlike ((ctx.shownBy names texts).checkUnless o d) := .ite .pass h

theorem endsAlike_checkLeaf {k : Kind} (actual expected : k.Node) :
    (checkLeaf k ctx actual expected).EndsAlike
      (checkLeaf k (ctx.shownBy names texts) actual expected) := by
  unfold checkLeaf
  rw [Kind.compare_shownBy]
  exact .ite .pass .fail

theorem endsAlike_checkLeafUsing {k : Kind} (actual expected : k.Node) :
    (checkLeafUsing k ctx actual expected).EndsAlike
      (checkLeafUsing k (ctx.shownBy names texts) actual expected) := by
  unfold checkLeafUsing
  rw [Kind.compare_shownBy]
  exact .ite .pass .failUsing

theorem endsAlike_checkOptional {k : Kind} {check check' : k.Node → k.Node → Check}
    (h : ∀ a e, (check a e).EndsAlike (check' a e)) (actual expected : Option k.Node) :
    (checkOptional k ctx check actual expected).EndsAlike
      (checkOptional k (ctx.shownBy names texts) check' actual expected) := by
  cases actual <;> cases expected
  · exact .pass
  · exact .fail
  · exact .fail
  · exact h _ _

theorem endsAlike_checkPresent {k : Kind} {check check' : List k.Node → List k.Node → Check}
    (h : ∀ as es, (check as es).EndsAlike (check' as es)) (actual expected : Option (List k.Node)) :
    (checkPresent k ctx check actual expected).EndsAlike
      (checkPresent k (ctx.shownBy names texts) check' actual expected) := by
  cases actual <;> cases expected
  · exact .pass
  · exact .fail
  · exact .fail
  · exact h _ _

theorem endsAlike_checkAnyOrder {k : Kind} {c : Comparator k.Node}
    (hc : c.compare (ctx.shownBy names texts) = c.compare ctx)
    (actual expected : Option (List k.Node)) :
    (checkAnyOrder k c ctx actual expected).EndsAlike
      (checkAnyOrder k c (ctx.shownBy names texts) actual expected) := by
  refine endsAlike_checkPresent (fun as es => ?_) actual expected
  rw [hc]
  exact .all <| .cons .log <| .cons (.ite .pass .failUsing) <| .nil

theorem endsAlike_checkUnordered {k : Kind} (actual expected : Option (List k.Node)) :
    (checkUnordered k ctx actual expected).EndsAlike
      (checkUnordered k (ctx.shownBy names texts) actual expected) :=
  endsAlike_checkAnyOrder (Kind.compare_shownBy k) actual expected

theorem endsAlike_checkOneByOne {k : Kind} {check check' : k.Node → k.Node → Check}
    (h : ∀ a e, (check a e).EndsAlike (check' a e)) {key : k.Node → String}
    (actual expected : Option (List k.Node)) :
    (checkOneByOne k ctx check key actual expected).EndsAlike
      (checkOneByOne k (ctx.shownBy names texts) check' key actual expected) := by
  refine endsAlike_checkPresent (fun as es => ?_) actual expected
  refine .all <| .cons .log <| .cons (.ite (.map ?_) .fail) <| .nil
  rintro ⟨a, e⟩
  exact (h a e).enter

theorem endsAlike_checkInOrder {k : Kind} {check check' : k.Node → k.Node → Check}
    (h : ∀ a e, (check a e).EndsAlike (check' a e)) (actual expected : Option (List k.Node)) :
    (checkInOrder k ctx check actual expected).EndsAlike
      (checkInOrder k (ctx.shownBy names texts) check' actual expected) := by
  refine endsAlike_checkPresent (fun as es => ?_) actual expected
  refine .ite (.map ?_) .fail
  rintro ⟨⟨a, e⟩, i⟩
  exact (h a e).enter

theorem endsAlike_valueUnless {α : Type} [DecidableEq α] [Shown α] {o : CheckOption}
    {part : String} {actual expected : α} :
    (ctx.checkUnless o (.field part (checkValue actual expected))).EndsAlike
      ((ctx.shownBy names texts).checkUnless o (.field part (checkValue actual expected))) :=
  endsAlike_checkUnless (.field (endsAlike_checkValue _ _))

theorem endsAlike_listUnless {k : Kind} {o : CheckOption} {part : String}
    {actual expected : Option (List k.Node)} :
    (ctx.checkUnless o (.field part (checkUnordered k ctx actual expected))).EndsAlike
      ((ctx.shownBy names texts).checkUnless o
        (.field part (checkUnordered k (ctx.shownBy names texts) actual expected))) :=
  endsAlike_checkUnless (.field (endsAlike_checkUnordered _ _))

theorem AnnotationUse.endsAlike_check (actual expected : AnnotationUse) :
    (actual.check ctx expected).EndsAlike (actual.check (ctx.shownBy names texts) expected) :=
  .all <| .cons (.field (endsAlike_checkValue _ _)) <|
    .cons (endsAlike_checkUnless (.ite .pass (.field .fail))) <| .nil

theorem TypeAnnotationUse.endsAlike_check (actual expected : TypeAnnotationUse) :
    (actual.check ctx expected).EndsAlike (actual.check (ctx.shownBy names texts) expected) :=
  .all <| .cons (AnnotationUse.endsAlike_check _ _) <|
    .cons (.field (endsAlike_checkLeafUsing _ _)) <| .cons (.field (endsAlike_checkValue _ _)) <|
    .nil

theorem endsAlike_checkLabels (actual expected : List Label) :
    (checkLabels ctx actual expected).EndsAlike
      (checkLabels (ctx.shownBy names texts) actual expected) := .ite .pass .fail

theorem LocalVariableAnnotationUse.endsAlike_check (actual expected : LocalVariableAnnotationUse) :
    (actual.check ctx expected).EndsAlike (actual.check (ctx.shownBy names texts) expected) :=
  .all <| .cons (TypeAnnotationUse.endsAlike_check _ _) <|
    .cons (.field (endsAlike_checkLabels _ _)) <| .cons (.field (endsAlike_checkLabels _ _)) <|
    .cons (.ite .pass (.field (endsAlike_checkValue _ _))) <| .nil

theorem endsAlike_checkInstructions (actual expected : List Instruction) :
    (checkInstructions ctx actual expected).EndsAlike
      (checkInstructions (ctx.shownBy names texts) actual expected) := by
  have hdifference : firstDifference? (ctx.shownBy names texts) actual expected =
      firstDifference? ctx actual expected := rfl
  unfold checkInstructions
  rw [hdifference]
  refine .ite ?_ .failUsing
  cases firstDifference? ctx actual expected with
  | none => exact .pass
  | some index => exact .failUsing

theorem TryCatchBlock.endsAlike_check (actual expected : TryCatchBlock) :
    (actual.check ctx expected).EndsAlike (actual.check (ctx.shownBy names texts) expected) :=
  .all <| .cons (.field (endsAlike_checkLeaf _ _)) <| .cons (.field (endsAlike_checkLeaf _ _)) <|
    .cons (.field (endsAlike_checkLeaf _ _)) <| .cons (.field (endsAlike_checkValue _ _)) <|
    .cons endsAlike_listUnless <| .cons endsAlike_listUnless <| .nil

theorem LocalVariable.endsAlike_check (actual expected : LocalVariable) :
    (actual.check ctx expected).EndsAlike (actual.check (ctx.shownBy names texts) expected) :=
  .all <| .cons (.field (endsAlike_checkValue _ _)) <|
    .cons (.field (endsAlike_checkValue _ _)) <| .cons (.field (endsAlike_checkValue _ _)) <|
    .cons (.field (endsAlike_checkLeaf _ _)) <| .cons (.field (endsAlike_checkLeaf _ _)) <|
    .cons (.field (endsAlike_checkValue _ _)) <| .nil

theorem Access.endsAlike_check (actual expected : Access) :
    (actual.check expected).EndsAlike (actual.check expected) := .ite .pass .fail

theorem Parameter.endsAlike_check (actual expected : Parameter) :
    (actual.check expected).EndsAlike (actual.check expected) :=
  .all <| .cons (.field (endsAlike_checkValue _ _)) <|
    .cons (.field (Access.endsAlike_check _ _)) <| .nil

theorem InnerClass.endsAlike_check (actual expected : InnerClass) :
    (actual.check expected).EndsAlike (actual.check expected) :=
  .all <| .cons (.field (endsAlike_checkValue _ _)) <|
    .cons (.field (endsAlike_checkValue _ _)) <| .cons (.field (endsAlike_checkValue _ _)) <|
    .cons (.field (Access.endsAlike_check _ _)) <| .nil

theorem Attribute.endsAlike_check (actual expected : Attribute) :
    (actual.check expected).EndsAlike (actual.check expected) :=
  .all <| .cons (.field (endsAlike_checkValue _ _)) <|
    .cons (.field (endsAlike_checkValue _ _)) <| .nil

theorem Metadata.endsAlike_check (actual expected : Metadata) :
    (actual.check ctx expected).EndsAlike (actual.check (ctx.shownBy names texts) expected) :=
  .all <| .cons endsAlike_listUnless <| .cons endsAlike_listUnless <|
    .cons endsAlike_listUnless <| .cons endsAlike_listUnless <| .cons endsAlike_listUnless <| .nil

theorem Entity.endsAlike_check (actual expected : Entity) :
    (actual.check ctx expected).EndsAlike (actual.check (ctx.shownBy names texts) expected) :=
  .all <| .cons endsAlike_valueUnless <|
    .cons (endsAlike_checkUnless (.field (Access.endsAlike_check _ _))) <|
    .cons endsAlike_valueUnless <| .cons (Metadata.endsAlike_check _ _) <| .nil

theorem Field.endsAlike_check (actual expected : Field) :
    (actual.check ctx expected).EndsAlike (actual.check (ctx.shownBy names texts) expected) :=
  .all <| .cons (Entity.endsAlike_check _ _) <| .cons endsAlike_valueUnless <|
    .cons (endsAlike_checkUnless (.field (endsAlike_checkOptional endsAlike_checkLeaf _ _))) <| .nil

theorem endsAlike_checkParameterAnnotations {part : String}
    (actual expected : Option ParameterAnnotations) :
    (checkParameterAnnotations ctx part actual expected).EndsAlike
      (checkParameterAnnotations (ctx.shownBy names texts) part actual expected) := by
  unfold checkParameterAnnotations
  split
  · exact .pass
  · refine .ite (.map ?_) (.field .fail)
    rintro ⟨⟨a, e⟩, i⟩
    exact .field (endsAlike_checkUnordered _ _)

namespace Method

theorem endsAlike_checkHeaders (actual expected : Method) :
    (checkHeaders ctx actual expected).EndsAlike
      (checkHeaders (ctx.shownBy names texts) actual expected) :=
  .all <| .cons (Entity.endsAlike_check _ _) <| .cons endsAlike_valueUnless <|
    .cons endsAlike_listUnless <|
    .cons (endsAlike_checkUnless (.field (endsAlike_checkInOrder Parameter.endsAlike_check _ _))) <|
    .cons endsAlike_valueUnless <| .cons endsAlike_valueUnless <|
    .cons (endsAlike_checkUnless (endsAlike_checkParameterAnnotations _ _)) <|
    .cons (endsAlike_checkUnless (endsAlike_checkParameterAnnotations _ _)) <| .nil

/-- Whether or not labels count, the comparator of ranges finds the same. -/
theorem rangeComparator_compare_shownBy (k : Kind) :
    (rangeComparator ctx k).compare (ctx.shownBy names texts) =
      (rangeComparator ctx k).compare ctx := by
  unfold rangeComparator
  split
  · exact @Kind.compare_shownBy ctx.ignoringLabels names texts k
  · exact Kind.compare_shownBy k

theorem endsAlike_checkRanges {k : Kind} (actual expected : Option (List k.Node)) :
    (checkAnyOrder k (rangeComparator ctx k) ctx actual expected).EndsAlike
      (checkAnyOrder k (rangeComparator ctx k) (ctx.shownBy names texts) actual expected) :=
  endsAlike_checkAnyOrder (rangeComparator_compare_shownBy k) actual expected

theorem endsAlike_checkBodies (actual expected : Method) :
    (checkBodies ctx actual expected).EndsAlike
      (checkBodies (ctx.shownBy names texts) actual expected) :=
  .all <| .cons (endsAlike_checkUnless (.field (endsAlike_checkInstructions _ _))) <|
    .cons (endsAlike_checkUnless (.field (endsAlike_checkRanges _ _))) <|
    .cons endsAlike_valueUnless <| .cons endsAlike_valueUnless <|
    .cons (endsAlike_checkUnless (.field (endsAlike_checkRanges _ _))) <|
    .cons endsAlike_listUnless <| .cons endsAlike_listUnless <| .nil

theorem endsAlike_check (actual expected : Method) :
    (actual.check ctx expected).EndsAlike (actual.check (ctx.shownBy names texts) expected) := by
  have hviews (a e : Method) :
      (checkViews ctx a e).EndsAlike (checkViews (ctx.shownBy names texts) a e) := by
    unfold checkViews
    rw [Context.forInstructions_shownBy]
    exact .all <| .cons (endsAlike_checkHeaders _ _) <| .cons .log <|
      .cons (endsAlike_checkBodies _ _) <|
      .cons (endsAlike_checkUnless (.field (endsAlike_checkOptional endsAlike_checkLeaf _ _))) <|
      .nil
  exact .all <| .cons .log <| .cons (hviews _ _) <| .nil

end Method

namespace ClassFile

theorem endsAlike_checkHeaders (actual expected : ClassFile) :
    (checkHeaders ctx actual expected).EndsAlike
      (checkHeaders (ctx.shownBy names texts) actual expected) :=
  .all <| .cons (Entity.endsAlike_check _ _) <| .cons endsAlike_valueUnless <|
    .cons endsAlike_valueUnless <| .cons endsAlike_listUnless <| .cons endsAlike_valueUnless <|
    .cons endsAlike_valueUnless <| .cons endsAlike_valueUnless <| .cons endsAlike_valueUnless <|
    .cons endsAlike_valueUnless <| .cons endsAlike_listUnless <| .cons endsAlike_valueUnless <|
    .cons endsAlike_listUnless <| .cons endsAlike_listUnless <| .nil

theorem endsAlike_checkFields (actual expected : ClassFile) :
    (checkFields ctx actual expected).EndsAlike
      (checkFields (ctx.shownBy names texts) actual expected) :=
  .ite (endsAlike_checkUnordered _ _)
    (endsAlike_checkOneByOne Field.endsAlike_check _ _)

theorem endsAlike_checkMethods (actual expected : ClassFile) :
    (checkMethods ctx actual expected).EndsAlike
      (checkMethods (ctx.shownBy names texts) actual expected) :=
  .all <| .cons .log <|
    .cons (.ite (endsAlike_checkUnordered _ _)
      (.ite (endsAlike_checkOneByOne Method.endsAlike_check _ _)
        (endsAlike_checkUnordered _ _))) <|
    .nil

theorem endsAlike_check (actual expected : ClassFile) :
    (actual.check ctx expected).EndsAlike (actual.check (ctx.shownBy names texts) expected) :=
  .all <| .cons (endsAlike_checkHeaders _ _) <|
    .cons (endsAlike_checkUnless (.field (endsAlike_checkFields _ _))) <|
    .cons (endsAlike_checkUnless (.field (endsAlike_checkMethods _ _))) <| .nil

end ClassFile

theorem Kind.endsAlike_check (k : Kind) (actual expected : k.Node) :
    (k.check ctx actual expected).EndsAlike
      (k.check (ctx.shownBy names texts) actual expected) := by
  cases k with
  | text => exact endsAlike_checkValue _ _
  | access => exact Access.endsAlike_check _ _
  | annotationUse => exact AnnotationUse.endsAlike_check _ _
  | typeReference => exact endsAlike_checkLeafUsing _ _
  | typeAnnotationUse => exact TypeAnnotationUse.endsAlike_check _ _
  | localVariableAnnotationUse => exact LocalVariableAnnotationUse.endsAlike_check _ _
  | parameter => exact Parameter.endsAlike_check _ _
  | innerClass => exact InnerClass.endsAlike_check _ _
  | rawAttribute => exact Attribute.endsAlike_check _ _
  | tryCatchBlock => exact TryCatchBlock.endsAlike_check _ _
  | localVariable => exact LocalVariable.endsAlike_check _ _
  | field => exact Field.endsAlike_check _ _
  | method => exact Method.endsAlike_check _ _
  | classFile => exact ClassFile.endsAlike_check _ _
  -- What is left is compared as a whole.
  | _ => exact endsAlike_checkLeaf _ _

end Checks

namespace Kind

/-- What labels and nodes are shown as decides nothing: neither how two nodes compare, nor whether
they pass their check, nor how deep and on behalf of which comparator the check fails. -/
theorem unchanged_by_rendering {ctx ctx' : Context} (h : ctx.JudgesAlike ctx') (k : Kind)
    (a b : k.Node) :
    k.compare ctx' a b = k.compare ctx a b ∧ ∀ trail : Trail,
      ((k.check ctx' a b).run trail).passes = ((k.check ctx a b).run trail).passes ∧
      ∀ f ∈ ((k.check ctx a b).run trail).failure, ∀ g ∈ ((k.check ctx' a b).run trail).failure,
        g.comparator = f.comparator ∧ g.trail.crumbs.length = f.trail.crumbs.length := by
  rw [h.eq_shownBy]
  refine ⟨by rw [compare_shownBy], fun trail => ?_⟩
  have hends := @Kind.endsAlike_check ctx ctx'.givenNames ctx'.representation k a b
  exact ⟨hends.passes_eq trail, fun f hf g hg =>
    ⟨(hends.atSamePlace hf hg).comparator, (hends.atSamePlace hf hg).depth⟩⟩

/-- A class with one method, which places one label and jumps to another or the same. -/
def jumpingClass (target : Label) : ClassFile :=
  .bare "C" [] [.bare "m" "()V" [.label ⟨0⟩, .jump 167 target]]

/-- All labels have one name and all methods one text. -/
def vague : Context :=
  Context.plain.shownBy (fun _ => some "start") (.withShort .usual .method fun _ _ => "?")

/-- Even so, the jumps of two methods are told apart where they stand. -/
theorem unchanged_by_rendering_of_jump :
    ((Kind.check .classFile vague (jumpingClass ⟨0⟩) (jumpingClass ⟨1⟩)).run .empty).passes =
        false ∧
      ∀ g ∈ ((Kind.check .classFile vague (jumpingClass ⟨0⟩) (jumpingClass ⟨1⟩)).run
        .empty).failure, g.comparator = some "InstructionComparator" ∧
          g.trail.crumbs.length = 3 := by
  have hplain : ((Kind.check .classFile .plain (jumpingClass ⟨0⟩) (jumpingClass ⟨1⟩)).run
      .empty).failure.map (fun f => (f.comparator, f.trail.crumbs.length)) =
        some (some "InstructionComparator", 3) := by
    decide
  obtain ⟨f, hf, hplace⟩ := Option.map_eq_some_iff.mp hplain
  obtain ⟨hcomparator, hdepth⟩ := Prod.mk.inj hplace
  have h := (@unchanged_by_rendering .plain vague ⟨rfl, rfl, rfl, rfl⟩ .classFile (jumpingClass ⟨0⟩)
    (jumpingClass ⟨1⟩)).2 .empty
  refine ⟨by rw [h.1, Report.passes, hf]; rfl, fun g hg => ?_⟩
  rw [(h.2 f hf g hg).1, (h.2 f hf g hg).2]
  exact ⟨hcomparator, hdepth⟩

end Kind

end ClassMatch
