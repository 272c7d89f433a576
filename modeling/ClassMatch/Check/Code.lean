import ClassMatch.Check.Annotations

/-!
Checks of instruction lists and of what belongs to them.
-/
namespace ClassMatch

/-- The instructions as a message shows them, one on each line. -/
def Context.listing (ctx : Context) (instructions : List Instruction) : String :=
  "\n".intercalate (instructions.map fun i =>
    (if i.placed?.isSome then "  " else "    ") ++ ctx.full .instruction i)

/-- Index of the first pair that differs. -/
def firstDifference? (ctx : Context) (actual expected : List Instruction) : Option Nat :=
  (actual.zip expected).findIdx? fun (a, e) => a.compare ctx e ≠ .eq

/-- The lists are as long as each other, and instructions at the same index are equal. -/
def checkInstructions (ctx : Context) (actual expected : List Instruction) : Check :=
  let fail (problem : String) : Check := .failUsing (Kind.orderName .instruction)
    s!"{problem}\nexpected:\n{ctx.listing expected}\n but was:\n{ctx.listing actual}"
  if actual.length = expected.length then
    match firstDifference? ctx actual expected with
    | none => .pass
    | some index => fail s!"Instruction at index {index} differs"
  else fail s!"Expected {expected.length} instructions but was {actual.length}"

/-- The same nodes in any order, as the natural order of their kind tells them apart. -/
def checkUnordered (k : Kind) (ctx : Context) :
    Option (List k.Node) → Option (List k.Node) → Check :=
  checkAnyOrder k (.natural k) ctx

def TryCatchBlock.check (ctx : Context) (actual expected : TryCatchBlock) : Check :=
  .all [
    .field "start" (checkLeaf .label ctx actual.start expected.start),
    .field "end" (checkLeaf .label ctx actual.stop expected.stop),
    .field "handler" (checkLeaf .label ctx actual.handler expected.handler),
    .field "type" (checkValue actual.catchType expected.catchType),
    ctx.checkUnless .ignoreVisibleTypeAnnotations <| .field "visible type annotations" <|
      checkUnordered .typeAnnotationUse ctx actual.visibleTypeAnnotations
        expected.visibleTypeAnnotations,
    ctx.checkUnless .ignoreInvisibleTypeAnnotations <| .field "invisible type annotations" <|
      checkUnordered .typeAnnotationUse ctx actual.invisibleTypeAnnotations
        expected.invisibleTypeAnnotations]

def LocalVariable.check (ctx : Context) (actual expected : LocalVariable) : Check :=
  .all [
    .field "name" (checkValue actual.name expected.name),
    .field "descriptor" (checkValue actual.descriptor expected.descriptor),
    .field "signature" (checkValue actual.signature expected.signature),
    .field "start" (checkLeaf .label ctx actual.start expected.start),
    .field "end" (checkLeaf .label ctx actual.stop expected.stop),
    .field "index" (checkValue actual.slot expected.slot)]

end ClassMatch
