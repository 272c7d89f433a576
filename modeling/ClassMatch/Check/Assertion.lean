import ClassMatch.Check.Node

/-!
Assertions: checks with a setup, which callers run on whole nodes and on lists of nodes.
-/
namespace ClassMatch

/-- How an assertion is set up. Indices that are given are the only thing labels are judged by. -/
structure Setup where
  options : OptionSet
  mode : MethodsMode
  indices : Option LabelIndices
  givenNames : LabelNames
  representation : Representation
  /-- Takes the place of the first crumb. -/
  description : Option String

namespace Setup

def plain : Setup :=
  { options := .empty, mode := .oneByOne, indices := none, givenNames := .unknown
    representation := .usual, description := none }

def context (setup : Setup) : Context :=
  { options := setup.options
    mode := setup.mode
    indices := setup.indices.getD fun _ => none
    fixed := setup.indices.isSome
    givenNames := setup.givenNames
    representation := setup.representation }

/-- The trail of the description alone. -/
def describedTrail (setup : Setup) : Trail := setup.description.elim .empty .root

end Setup

/-- The nodes are equal for the comparator. -/
def checkUsing (k : Kind) (c : Comparator k.Node) (ctx : Context) (actual expected : k.Node) :
    Check :=
  .all [
    .log (c.events ctx actual expected),
    if c.compare ctx actual expected = .eq then .pass
    else .failUsing c.name (mismatch (ctx.full k expected) (ctx.full k actual))]

/-- Asserts that two nodes say the same, by a comparator if there is one and else part by part. -/
def assertNode (k : Kind) (setup : Setup) (comparator : Option (Comparator k.Node))
    (actual expected : k.Node) : Report :=
  let ctx := setup.context
  let root := setup.description.getD (ctx.describe k actual)
  let check := comparator.elim (k.check ctx actual expected) fun c =>
    checkUsing k c ctx actual expected
  check.run (.root root)

/-- Asserts that two instruction lists say the same, with labels judged by their place. -/
def assertInstructions (setup : Setup) (actual expected : List Instruction) : Report :=
  let ctx := setup.context
  let compared (instructions : List Instruction) : List Instruction × List Event :=
    let anchors := instructionAnchors instructions
    if ctx.has .ignoreLineNumbers then
      (withoutLineNumbers anchors instructions, [removalEvent anchors instructions])
    else (instructions, [])
  let (actual, actualEvents) := compared actual
  let (expected, expectedEvents) := compared expected
  let check : Check := .all [
    .log (actualEvents ++ expectedEvents ++ ctx.pairEvents actual expected),
    checkInstructions (ctx.forInstructions actual expected) actual expected]
  check.run setup.describedTrail

/-- What an assertion on a list asks for. -/
inductive Matching
  | anyOrder | oneByOne | inOrder
  deriving DecidableEq

/-- Asserts that two lists match. A comparator stands in for the check of the elements, except
where they are paired by key. -/
def assertList (k : Kind) (setup : Setup) (comparator : Option (Comparator k.Node))
    (key : Option (k.Node → String)) (matching : Matching) (actual : Option (List k.Node))
    (expected : List k.Node) : Except SetupError Report := do
  let ctx := setup.context
  let check ← match matching with
    | .anyOrder =>
      pure (checkAnyOrder k (comparator.getD (.natural k)) ctx actual (some expected))
    | .oneByOne =>
      match key with
      | none => throw .noKeys
      | some key => pure (checkOneByOne k ctx (k.check ctx) key actual (some expected))
    | .inOrder =>
      match comparator with
      | some c => pure (checkInOrderUsing k c ctx actual (some expected))
      | none => pure (checkInOrder k ctx (k.check ctx) actual (some expected))
  return check.run setup.describedTrail

end ClassMatch
