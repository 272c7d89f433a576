/-!
Labels of an instruction list. A label has an identity and nothing else: its index and its name
depend on a lookup, and the two lookups are independent of each other.
-/
namespace ClassMatch

structure Label where
  id : Nat
  deriving DecidableEq

/-- The name of a label that no lookup knows. -/
def Label.identityName (label : Label) : String := s!"L#{label.id}"

/-- The index of each known label. -/
abbrev LabelIndices := Label → Option Nat

/-- The name of each known label. -/
abbrev LabelNames := Label → Option String

namespace LabelNames

def unknown : LabelNames := fun _ => none

/-- The names of the first lookup, and those of the second for labels it does not know. -/
def merge (first second : LabelNames) : LabelNames := fun label => (first label).or (second label)

/-- Labels named by their indices. -/
def ofIndices (indices : LabelIndices) : LabelNames := fun label =>
  (indices label).map fun index => s!"L{index}"

/-- The name to show for a label. -/
def nameOf (names : LabelNames) (label : Label) : String :=
  (names label).getD label.identityName

end LabelNames

end ClassMatch
