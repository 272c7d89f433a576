import ClassMatch.Check.Node
import ClassMatch.Proofs.Order.Reported
import Mathlib

/-!
How the checks of all kinds of nodes are made. What holds of passing, reporting and failing, and is
kept when checks are run in turn and under crumbs, holds of the check of every kind.
-/
namespace ClassMatch

namespace Check

/-- The check is made of others in such a way that it fails at no other trail than the last one it
has entered. An inner check enters a crumb before it fails, and only an inner check comes after one
that may have entered crumbs itself. -/
inductive Built : (inner : Bool) → Check → Prop
  | pass {inner : Bool} : Built inner .pass
  | fail {message : String} : Built false (.fail message)
  | failUsing {comparator message : String} : Built false (.failUsing comparator message)
  | logThen {inner : Bool} {events : List Event} {c : Check} (h : EntersNone events)
      (hc : Built inner c) : Built inner ((log events).andThen c)
  | andThen {inner : Bool} {c d : Check} (hc : Built inner c) (hd : Built true d) :
      Built inner (c.andThen d)
  | enter {inner : Bool} {crumb : String} {c : Check} (hc : Built false c) :
      Built inner (.enter crumb c)

namespace Built

variable {inner : Bool} {c d : Check}

theorem field {part : String} (h : Built false c) : Built inner (.field part c) := .enter h

theorem ite {p : Prop} [Decidable p] (hc : Built inner c) (hd : Built inner d) :
    Built inner (if p then c else d) := by
  split
  · exact hc
  · exact hd

theorem singleton (h : Built inner c) : Built inner (.all [c]) := .andThen h .pass

theorem map {α : Type} {f : α → Check} {as : List α} (h : ∀ a inner, Built inner (f a)) :
    Built inner (.all (as.map f)) := by
  induction as generalizing inner with
  | nil => exact .pass
  | cons a as ih => exact .andThen (h a inner) ih

end Built

end Check

open Check

variable {inner : Bool} {ctx : Context}

theorem built_checkUnless {o : CheckOption} {c : Check} (h : Built inner c) :
    Built inner (ctx.checkUnless o c) := .ite .pass h

theorem built_checkValue {α : Type} [DecidableEq α] [Shown α] {actual expected : α} :
    Built false (checkValue actual expected) := .ite .pass .fail

theorem built_checkLeaf {k : Kind} {actual expected : k.Node} :
    Built false (checkLeaf k ctx actual expected) := .ite .pass .fail

theorem built_checkLeafUsing {k : Kind} {actual expected : k.Node} :
    Built false (checkLeafUsing k ctx actual expected) := .ite .pass .failUsing

theorem built_checkLabels {actual expected : List Label} :
    Built false (checkLabels ctx actual expected) := .ite .pass .fail

theorem built_checkInstructions {actual expected : List Instruction} :
    Built false (checkInstructions ctx actual expected) := by
  refine .ite ?_ .failUsing
  split
  · exact .pass
  · exact .failUsing

theorem Access.built_check {actual expected : Access} : Built false (actual.check expected) :=
  .ite .pass .fail

section Lists

variable {k : Kind}

theorem built_checkOptional {check : k.Node → k.Node → Check}
    (h : ∀ a e, Built false (check a e)) {actual expected : Option k.Node} :
    Built false (checkOptional k ctx check actual expected) := by
  cases actual <;> cases expected
  · exact .pass
  · exact .fail
  · exact .fail
  · exact h _ _

theorem built_checkPresent {check : List k.Node → List k.Node → Check}
    (h : ∀ as es, Built false (check as es)) {actual expected : Option (List k.Node)} :
    Built false (checkPresent k ctx check actual expected) := by
  cases actual <;> cases expected
  · exact .pass
  · exact .fail
  · exact .fail
  · exact h _ _

variable {actual expected : Option (List k.Node)}

theorem built_checkAnyOrder {c : Comparator k.Node} (hc : c.EntersNone) :
    Built false (checkAnyOrder k c ctx actual expected) := by
  refine built_checkPresent fun as es => ?_
  exact .logThen hc.differenceEvents <| .singleton (.ite .pass .failUsing)

theorem built_checkUnordered : Built false (checkUnordered k ctx actual expected) :=
  built_checkAnyOrder (Comparator.entersNone_natural k)

theorem built_checkOneByOne {check : k.Node → k.Node → Check}
    (h : ∀ a e, Built false (check a e)) {key : k.Node → String} :
    Built false (checkOneByOne k ctx check key actual expected) := by
  refine built_checkPresent fun as es => ?_
  refine .logThen (by simp [EntersNone, Event.entered?]) (.singleton (.ite (.map ?_) .fail))
  rintro ⟨a, e⟩ inner
  exact .enter (h a e)

theorem built_checkInOrder {check : k.Node → k.Node → Check} (h : ∀ a e, Built false (check a e)) :
    Built false (checkInOrder k ctx check actual expected) := by
  refine built_checkPresent fun as es => ?_
  refine .ite (.map ?_) .fail
  rintro ⟨⟨a, e⟩, i⟩ inner
  exact .enter (h a e)

/-- A part that is a list of nodes in any order. -/
theorem built_listUnless {o : CheckOption} {part : String} :
    Built inner (ctx.checkUnless o (.field part (checkUnordered k ctx actual expected))) :=
  built_checkUnless (.field built_checkUnordered)

end Lists

/-- A part that is a plain value. -/
theorem built_valueUnless {α : Type} [DecidableEq α] [Shown α] {o : CheckOption} {part : String}
    {actual expected : α} :
    Built inner (ctx.checkUnless o (.field part (checkValue actual expected))) :=
  built_checkUnless (.field built_checkValue)

theorem AnnotationUse.built_check {actual expected : AnnotationUse} :
    Built inner (actual.check ctx expected) :=
  .andThen (.field built_checkValue) <|
    .andThen (built_checkUnless (.ite .pass (.field .fail))) .pass

theorem TypeAnnotationUse.built_check {actual expected : TypeAnnotationUse} :
    Built inner (actual.check ctx expected) :=
  .andThen AnnotationUse.built_check <| .andThen (.field built_checkLeafUsing) <|
    .andThen (.field built_checkValue) .pass

theorem LocalVariableAnnotationUse.built_check {actual expected : LocalVariableAnnotationUse} :
    Built inner (actual.check ctx expected) :=
  .andThen TypeAnnotationUse.built_check <| .andThen (.field built_checkLabels) <|
    .andThen (.field built_checkLabels) <|
    .andThen (.ite .pass (.field built_checkValue)) .pass

theorem TryCatchBlock.built_check {actual expected : TryCatchBlock} :
    Built inner (actual.check ctx expected) :=
  .andThen (.field built_checkLeaf) <| .andThen (.field built_checkLeaf) <|
    .andThen (.field built_checkLeaf) <| .andThen (.field built_checkValue) <|
    .andThen built_listUnless <| .andThen built_listUnless .pass

theorem LocalVariable.built_check {actual expected : LocalVariable} :
    Built inner (actual.check ctx expected) :=
  .andThen (.field built_checkValue) <| .andThen (.field built_checkValue) <|
    .andThen (.field built_checkValue) <| .andThen (.field built_checkLeaf) <|
    .andThen (.field built_checkLeaf) <| .andThen (.field built_checkValue) .pass

theorem Parameter.built_check {actual expected : Parameter} :
    Built inner (actual.check expected) :=
  .andThen (.field built_checkValue) <| .andThen (.field Access.built_check) .pass

theorem InnerClass.built_check {actual expected : InnerClass} :
    Built inner (actual.check expected) :=
  .andThen (.field built_checkValue) <| .andThen (.field built_checkValue) <|
    .andThen (.field built_checkValue) <| .andThen (.field Access.built_check) .pass

theorem Attribute.built_check {actual expected : Attribute} :
    Built inner (actual.check expected) :=
  .andThen (.field built_checkValue) <| .andThen (.field built_checkValue) .pass

theorem Metadata.built_check {actual expected : Metadata} :
    Built inner (actual.check ctx expected) :=
  .andThen built_listUnless <| .andThen built_listUnless <| .andThen built_listUnless <|
    .andThen built_listUnless <| .andThen built_listUnless .pass

theorem Entity.built_check {actual expected : Entity} : Built inner (actual.check ctx expected) :=
  .andThen built_valueUnless <|
    .andThen (built_checkUnless (.field Access.built_check)) <|
    .andThen built_valueUnless <| .andThen Metadata.built_check .pass

theorem Field.built_check {actual expected : Field} : Built inner (actual.check ctx expected) :=
  .andThen Entity.built_check <| .andThen built_valueUnless <|
    .andThen (built_checkUnless (.field (built_checkOptional fun _ _ => built_checkLeaf)))
      .pass

theorem built_checkParameterAnnotations {part : String}
    {actual expected : Option ParameterAnnotations} :
    Built inner (checkParameterAnnotations ctx part actual expected) := by
  unfold checkParameterAnnotations
  split
  · exact .pass
  · refine .ite (.map ?_) (.field .fail)
    rintro ⟨⟨a, e⟩, i⟩ inner
    exact .field built_checkUnordered

namespace Method

variable {actual expected : Method}

theorem built_checkHeaders : Built inner (checkHeaders ctx actual expected) :=
  .andThen Entity.built_check <| .andThen built_valueUnless <| .andThen built_listUnless <|
    .andThen (built_checkUnless
      (.field (built_checkInOrder fun _ _ => Parameter.built_check))) <|
    .andThen built_valueUnless <| .andThen built_valueUnless <|
    .andThen (built_checkUnless built_checkParameterAnnotations) <|
    .andThen (built_checkUnless built_checkParameterAnnotations) .pass

theorem entersNone_rangeComparator {k : Kind} : (rangeComparator ctx k).EntersNone := by
  unfold rangeComparator
  split
  · exact (Comparator.entersNone_natural k).ignoringLabels
  · exact Comparator.entersNone_natural k

theorem built_checkBodies : Built inner (checkBodies ctx actual expected) :=
  .andThen (built_checkUnless (.field built_checkInstructions)) <|
    .andThen (built_checkUnless
      (.field (built_checkAnyOrder entersNone_rangeComparator))) <|
    .andThen built_valueUnless <| .andThen built_valueUnless <|
    .andThen (built_checkUnless
      (.field (built_checkAnyOrder entersNone_rangeComparator))) <|
    .andThen built_listUnless <| .andThen built_listUnless .pass

theorem built_checkViews : Built inner (checkViews ctx actual expected) :=
  .andThen built_checkHeaders <| .logThen Context.entersNone_pairEvents <|
    .andThen built_checkBodies <|
    .andThen (built_checkUnless (.field (built_checkOptional fun _ _ => built_checkLeaf)))
      .pass

theorem built_check : Built inner (actual.check ctx expected) :=
  .logThen (Context.entersNone_viewEvents.append Context.entersNone_viewEvents) <|
    .andThen built_checkViews .pass

end Method

namespace ClassFile

variable {actual expected : ClassFile}

theorem built_checkHeaders : Built inner (checkHeaders ctx actual expected) :=
  .andThen Entity.built_check <| .andThen built_valueUnless <| .andThen built_valueUnless <|
    .andThen built_listUnless <| .andThen built_valueUnless <| .andThen built_valueUnless <|
    .andThen built_valueUnless <| .andThen built_valueUnless <| .andThen built_valueUnless <|
    .andThen built_listUnless <| .andThen built_valueUnless <| .andThen built_listUnless <|
    .andThen built_listUnless .pass

theorem built_checkFields : Built false (checkFields ctx actual expected) :=
  .ite built_checkUnordered (built_checkOneByOne fun _ _ => Field.built_check)

theorem built_checkMethods : Built false (checkMethods ctx actual expected) :=
  .logThen (by simp [EntersNone, Event.entered?]) <| .singleton <|
    .ite built_checkUnordered <|
    .ite (built_checkOneByOne fun _ _ => Method.built_check) built_checkUnordered

theorem built_check : Built inner (actual.check ctx expected) :=
  .andThen built_checkHeaders <|
    .andThen (built_checkUnless (.field built_checkFields)) <|
    .andThen (built_checkUnless (.field built_checkMethods)) .pass

end ClassFile

theorem Kind.built_check (k : Kind) {actual expected : k.Node} :
    Built false (k.check ctx actual expected) := by
  cases k with
  | text => exact built_checkValue
  | access => exact Access.built_check
  | annotationUse => exact AnnotationUse.built_check
  | typeReference => exact built_checkLeafUsing
  | typeAnnotationUse => exact TypeAnnotationUse.built_check
  | localVariableAnnotationUse => exact LocalVariableAnnotationUse.built_check
  | parameter => exact Parameter.built_check
  | innerClass => exact InnerClass.built_check
  | rawAttribute => exact Attribute.built_check
  | tryCatchBlock => exact TryCatchBlock.built_check
  | localVariable => exact LocalVariable.built_check
  | field => exact Field.built_check
  | method => exact Method.built_check
  | classFile => exact ClassFile.built_check
  -- What is left is compared as a whole.
  | _ => exact built_checkLeaf

end ClassMatch
