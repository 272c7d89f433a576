import ClassMatch.Order.Events
import ClassMatch.Render.Node

/-!
Comparators: orders with a name, which a failure quotes.
-/
namespace ClassMatch

structure Comparator (α : Type) where
  name : String
  compare : Context → α → α → Ordering
  /-- What is reported when two values are compared. -/
  events : Context → α → α → List Event

namespace Comparator

/-- The natural order of a kind. -/
def natural (k : Kind) : Comparator k.Node := ⟨k.orderName, k.compare, k.compareEvents⟩

def ofHandles : Comparator Handle :=
  ⟨"HandleComparator", fun _ => Handle.compare, fun _ _ _ => []⟩

def ofFrameValues : Comparator FrameValue :=
  ⟨"FrameValueComparator", FrameValue.compare, fun _ _ _ => []⟩

/-- The order of the short texts. -/
def byShortText (k : Kind) : Comparator k.Node :=
  { name := "SimplifiedComparator"
    compare := fun ctx a b => Ord.compare (ctx.short k a) (ctx.short k b)
    events := fun _ _ _ => [] }

variable {α : Type}

/-- No two values differ. -/
def allEqual : Comparator α :=
  { name := "AllEqualComparator", compare := fun _ _ _ => .eq, events := fun _ _ _ => [] }

/-- The same order when all labels are taken to be the same. -/
def ignoringLabels (c : Comparator α) : Comparator α :=
  { name := c.name ++ " (ignoring labels)"
    compare := fun ctx => c.compare ctx.ignoringLabels
    events := fun ctx => c.events ctx.ignoringLabels }

/-- The order turned round. -/
def reversed (c : Comparator α) : Comparator α :=
  { name := "ReversedComparator"
    compare := fun ctx a b => c.compare ctx b a
    events := fun ctx a b => c.events ctx b a }

/-- The form in which a comparator is shown to developers. -/
def debugText (c : Comparator α) : String := "Comparator(" ++ Text.quote c.name ++ ")"

end Comparator

end ClassMatch
