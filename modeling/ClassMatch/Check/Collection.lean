import ClassMatch.Check.Value
import ClassMatch.Order.Comparator

/-!
Checks of lists: the same elements in any order, elements with the same key against each other, or
the same elements in the same order.
-/
namespace ClassMatch

/-- Both lists are missing, or both are present and pass the check. -/
def checkPresent (k : Kind) (ctx : Context) (check : List k.Node → List k.Node → Check) :
    Option (List k.Node) → Option (List k.Node) → Check
  | none, none => .pass
  | some actual, some expected => check actual expected
  | actual, expected => .fail (mismatch (ctx.shortList? k expected) (ctx.shortList? k actual))

/-- What is left of two ascending lists, expected first, when elements that are equal are taken
away in pairs. -/
def unmatched {α : Type} (cmp : α → α → Ordering) : List α → List α → List α × List α
  | [], expected => (expected, [])
  | a :: actual, [] => ([], a :: actual)
  | a :: actual, e :: expected =>
    match cmp a e with
    | .lt =>
      let rest := unmatched cmp actual (e :: expected)
      (rest.1, a :: rest.2)
    | .gt =>
      let rest := unmatched cmp (a :: actual) expected
      (e :: rest.1, rest.2)
    | .eq => unmatched cmp actual expected
termination_by actual expected => actual.length + expected.length

/-- Events of `unmatched`. -/
def unmatchedEvents {α : Type} (cmp : α → α → Ordering) (events : α → α → List Event) :
    List α → List α → List Event
  | a :: actual, e :: expected =>
    events a e ++
      match cmp a e with
      | .lt => unmatchedEvents cmp events actual (e :: expected)
      | .gt => unmatchedEvents cmp events (a :: actual) expected
      | .eq => unmatchedEvents cmp events actual expected
  | _, _ => []
termination_by actual expected => actual.length + expected.length

/-- The elements at the positions that are listed together with them, in the order of the list. -/
def atPositions {α : Type} (list : List α) (positions : List (α × Nat)) : List α :=
  (list.zipIdx.filter fun entry => (positions.map Prod.snd).contains entry.2).map Prod.fst

/-- The expected elements that are not found and the actual ones that are not expected. -/
def differences {α : Type} (cmp : α → α → Ordering) (actual expected : List α) :
    List α × List α :=
  let byElement (a b : α × Nat) : Ordering := cmp a.1 b.1
  let sorted (list : List α) := sortBy byElement list.zipIdx
  let rest := unmatched byElement (sorted actual) (sorted expected)
  (atPositions expected rest.1, atPositions actual rest.2)

/-- Events of `differences`. -/
def differenceEvents {α : Type} (cmp : α → α → Ordering) (events : α → α → List Event)
    (actual expected : List α) : List Event :=
  sortEvents cmp events actual ++ sortEvents cmp events expected ++
    unmatchedEvents cmp events (sortBy cmp actual) (sortBy cmp expected)

/-- Both lists, and then what each of them has more than the other, if anything. -/
def anyOrderMessage (actual expected what notFound notExpected : String)
    (anyNotFound anyNotExpected : Bool) : String :=
  s!"Expecting actual:\n  {actual}\nto contain exactly in any order:\n  {expected}" ++
    (if anyNotFound then s!"\n{what} not found: {notFound}" else "") ++
    (if anyNotExpected then s!"\n{what} not expected: {notExpected}" else "")

/-- The lists hold the same elements, as the comparator tells them apart, as often as each other. -/
def checkAnyOrder (k : Kind) (c : Comparator k.Node) (ctx : Context) :
    Option (List k.Node) → Option (List k.Node) → Check :=
  checkPresent k ctx fun actual expected =>
    let (notFound, notExpected) := differences (c.compare ctx) actual expected
    .all [
      .log (differenceEvents (c.compare ctx) (c.events ctx) actual expected),
      if notFound.isEmpty && notExpected.isEmpty then .pass
      else .failUsing c.name (anyOrderMessage (ctx.shortList k actual) (ctx.shortList k expected)
        "elements" (ctx.shortList k notFound) (ctx.shortList k notExpected)
        (!notFound.isEmpty) (!notExpected.isEmpty))]

/-- Each key as often as there are more of it among its own keys than among the others, in the
order of first appearance. -/
def surplusKeys (own others : List String) : List String :=
  own.eraseDups.flatMap fun key => List.replicate (own.count key - others.count key) key

/-- Elements with the same key, the first with the first and so on, by the order in which the keys
appear in the actual list. -/
def pairsByKey {α : Type} (key : α → String) (actual expected : List α) : List (α × α) :=
  (actual.map key).eraseDups.flatMap fun k =>
    (actual.filter fun a => key a == k).zip (expected.filter fun e => key e == k)

/-- Every key appears as often in both lists, and elements with the same key pass the check. -/
def checkOneByOne (k : Kind) (ctx : Context) (check : k.Node → k.Node → Check)
    (key : k.Node → String) : Option (List k.Node) → Option (List k.Node) → Check :=
  checkPresent k ctx fun actual expected =>
    let actualKeys := actual.map key
    let expectedKeys := expected.map key
    let notFound := surplusKeys expectedKeys actualKeys
    let notExpected := surplusKeys actualKeys expectedKeys
    .all [
      .log [.pairedUp actualKeys.eraseDups.length notFound.length notExpected.length],
      if notFound.isEmpty && notExpected.isEmpty then
        .all ((pairsByKey key actual expected).map fun (a, e) =>
          .enter (ctx.describe k a) (check a e))
      else .fail (anyOrderMessage (ctx.shortList k actual) (ctx.shortList k expected)
        "keys" (shown notFound) (shown notExpected) (!notFound.isEmpty) (!notExpected.isEmpty))]

/-- The lists are as long as each other, and elements at the same index pass the check. -/
def checkInOrder (k : Kind) (ctx : Context) (check : k.Node → k.Node → Check) :
    Option (List k.Node) → Option (List k.Node) → Check :=
  checkPresent k ctx fun actual expected =>
    if actual.length = expected.length then
      .all ((actual.zip expected).zipIdx.map fun ((a, e), i) =>
        .enter s!"Element at index {i}" (check a e))
    else .fail (s!"Expected {expected.length} elements but was {actual.length}\n" ++
      mismatch (ctx.shortList k expected) (ctx.shortList k actual))

/-- The lists are as long as each other, and elements at the same index are equal. -/
def checkInOrderUsing (k : Kind) (c : Comparator k.Node) (ctx : Context) :
    Option (List k.Node) → Option (List k.Node) → Check :=
  checkPresent k ctx fun actual expected =>
    let difference := mismatch (ctx.shortList k expected) (ctx.shortList k actual)
    if actual.length = expected.length then
      .all [
        .log (elementEvents (c.compare ctx) (c.events ctx) actual expected),
        if compareElements (c.compare ctx) actual expected = .eq then .pass
        else .failUsing c.name difference]
    else .failUsing c.name difference

end ClassMatch
