import ClassMatch.Check.Collection

/-!
Checks of annotations.
-/
namespace ClassMatch

namespace AnnotationUse

/-- The elements in the order in which they are compared. -/
def valuesText (use : AnnotationUse) : String :=
  "\x7b" ++ ", ".intercalate (elementTexts (sortElements use.elements)) ++ "\x7d"

/-- Both have the same type, and the same values for the same elements. -/
def check (ctx : Context) (actual expected : AnnotationUse) : Check :=
  .all [
    .field "descriptor" (checkValue actual.descriptor expected.descriptor),
    ctx.checkUnless .ignoreAnnotationValues <|
      if actual.compareElements ctx expected = .eq then .pass
      else .field "values" (.fail (mismatch expected.valuesText actual.valuesText))]

end AnnotationUse

def TypeAnnotationUse.check (ctx : Context) (actual expected : TypeAnnotationUse) : Check :=
  .all [
    actual.use.check ctx expected.use,
    .field "type reference" (checkLeafUsing .typeReference ctx actual.target expected.target),
    .field "type path" (checkValue actual.path expected.path)]

/-- Labels at the same place have the same index. -/
def checkLabels (ctx : Context) (actual expected : List Label) : Check :=
  let text (labels : List Label) := bracketed (labels.map ctx.names.nameOf)
  if compareLists (Label.compare ctx) actual expected = .eq then .pass
  else .fail (mismatch (text expected) (text actual))

def LocalVariableAnnotationUse.check (ctx : Context)
    (actual expected : LocalVariableAnnotationUse) : Check :=
  .all [
    actual.typeUse.check ctx expected.typeUse,
    .field "start" (checkLabels ctx actual.starts expected.starts),
    .field "end" (checkLabels ctx actual.ends expected.ends),
    if actual.slots = expected.slots then .pass
    else .field "index" (checkValue actual.slots expected.slots)]

end ClassMatch
