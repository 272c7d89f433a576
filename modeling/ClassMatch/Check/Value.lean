import ClassMatch.Check.Basic
import ClassMatch.Render.Node
import ClassMatch.Order.Node

/-!
Checks of single values: plain ones, which must be identical, and nodes that are compared as a
whole.
-/
namespace ClassMatch

/-- Values that a mismatch can show. -/
class Shown (α : Type) where
  shown : α → String

export Shown (shown)

instance : Shown String := ⟨Text.quote⟩
instance : Shown Bool := ⟨toString⟩
instance : Shown UInt8 := ⟨toString⟩
instance : Shown UInt16 := ⟨toString⟩
instance : Shown UInt32 := ⟨toString⟩
instance : Shown Int32 := ⟨fun n => toString n.toInt⟩
instance : Shown Nat := ⟨toString⟩
instance {α : Type} [Shown α] : Shown (Option α) := ⟨fun value => value.elim "null" shown⟩
instance {α : Type} [Shown α] : Shown (List α) := ⟨fun values => bracketed (values.map shown)⟩

/-- Bytes are shown as one hexadecimal number. -/
instance : Shown (List UInt8) := ⟨fun bytes => "0x" ++ hexBytes bytes⟩

/-- The values must be identical. -/
def checkValue {α : Type} [DecidableEq α] [Shown α] (actual expected : α) : Check :=
  if actual = expected then .pass else .fail (mismatch (shown expected) (shown actual))

/-- The nodes must be equal in the natural order of their kind. -/
def checkLeaf (k : Kind) (ctx : Context) (actual expected : k.Node) : Check :=
  if k.compare ctx actual expected = .eq then .pass
  else .fail (mismatch (ctx.full k expected) (ctx.full k actual))

/-- As `checkLeaf`, on behalf of the natural order. -/
def checkLeafUsing (k : Kind) (ctx : Context) (actual expected : k.Node) : Check :=
  if k.compare ctx actual expected = .eq then .pass
  else .failUsing k.orderName (mismatch (ctx.full k expected) (ctx.full k actual))

/-- Both nodes are absent, or both are present and pass the check. -/
def checkOptional (k : Kind) (ctx : Context) (check : k.Node → k.Node → Check) :
    Option k.Node → Option k.Node → Check
  | none, none => .pass
  | some actual, some expected => check actual expected
  | actual, expected =>
    let text (node : Option k.Node) := node.elim "null" (ctx.full k)
    .fail (mismatch (text expected) (text actual))

end ClassMatch
