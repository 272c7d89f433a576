import ClassMatch.Tree.Kind

/-!
Representations: texts for whole nodes that replace the usual ones. They apply to the nodes that a
message shows, and not to what is inside them.
-/
namespace ClassMatch

/-- For each kind, what replaces the full and the short text of its nodes. -/
structure Representation where
  full : (k : Kind) → Option (k.Node → LabelNames → String)
  short : (k : Kind) → Option (k.Node → LabelNames → String)

namespace Representation

/-- Nothing is replaced. -/
def usual : Representation := ⟨fun _ => none, fun _ => none⟩

/-- Some text of the kind is replaced. -/
def replaces (r : Representation) (k : Kind) : Bool := (r.full k).isSome || (r.short k).isSome

def withFull (r : Representation) (k : Kind) (text : k.Node → LabelNames → String) :
    Representation :=
  { r with full := fun k' => if h : k = k' then some (h ▸ text) else r.full k' }

def withShort (r : Representation) (k : Kind) (text : k.Node → LabelNames → String) :
    Representation :=
  { r with short := fun k' => if h : k = k' then some (h ▸ text) else r.short k' }

end Representation

end ClassMatch
