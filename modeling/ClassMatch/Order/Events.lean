import ClassMatch.Order.Node
import ClassMatch.Report.Event

/-!
What is reported while nodes are compared. Only methods report anything: that they are viewed
without line numbers, and that the labels of two bodies are numbered once all that comes before the
bodies is equal. Comparing lists of methods reports this for every comparison that is made.
-/
namespace ClassMatch

/-- Events of putting an element into its place, for `insertDescending`. -/
def insertEvents {α : Type} (cmp : α → α → Ordering) (events : α → α → List Event) (a : α) :
    List α → List Event
  | [] => []
  | b :: bs => events a b ++ if cmp a b = .lt then insertEvents cmp events a bs else []

/-- Events of putting elements into a sorted list one after the other. -/
def insertAllEvents {α : Type} (cmp : α → α → Ordering) (events : α → α → List Event)
    (sorted : List α) : List α → List Event
  | [] => []
  | a :: as => insertEvents cmp events a sorted ++
    insertAllEvents cmp events (insertDescending cmp a sorted) as

/-- Events of `sortBy`. These are the comparisons of an insertion sort, by which short lists are
sorted; a longer list is sorted to the same result, but by other comparisons. -/
def sortEvents {α : Type} (cmp : α → α → Ordering) (events : α → α → List Event) (as : List α) :
    List Event :=
  insertAllEvents cmp events [] as

/-- Events of `compareElements`. -/
def elementEvents {α : Type} (cmp : α → α → Ordering) (events : α → α → List Event) :
    List α → List α → List Event
  | a :: as, b :: bs =>
    events a b ++ if cmp a b = .eq then elementEvents cmp events as bs else []
  | _, _ => []

/-- Events of `compareUnordered`. -/
def unorderedEvents {α : Type} (cmp : α → α → Ordering) (events : α → α → List Event)
    (as bs : List α) : List Event :=
  if as.length = bs.length then
    sortEvents cmp events as ++ sortEvents cmp events bs ++
      elementEvents cmp events (sortBy cmp as) (sortBy cmp bs)
  else []

def Method.compareEvents (ctx : Context) (a b : Method) : List Event :=
  let viewA := ctx.view a
  let viewB := ctx.view b
  ctx.viewEvents a ++ ctx.viewEvents b ++
    if compareHeaders ctx viewA viewB = .eq then
      ctx.pairEvents viewA.instructions viewB.instructions
    else []

/-- The methods are looked at last, and as methods only if more than their declarations counts. -/
def ClassFile.compareEvents (ctx : Context) (a b : ClassFile) : List Event :=
  if ctx.has .ignoreMethods ∨ ctx.mode = .declarationsOnly ∨ compareHeaders ctx a b ≠ .eq then []
  else unorderedEvents (Method.compare ctx) (Method.compareEvents ctx) a.methods b.methods

/-- Events of `Kind.compare`. -/
def Kind.compareEvents : (k : Kind) → Context → k.Node → k.Node → List Event
  | method, ctx, a, b => a.compareEvents ctx b
  | classFile, ctx, a, b => a.compareEvents ctx b
  | _, _, _, _ => []

end ClassMatch
