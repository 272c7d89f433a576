import ClassMatch.Label.Map

/-!
Numbered label maps that may fall back to one another. A fallback to a map sees what is put into
that map later.
-/
namespace ClassMatch

/-- What a numbered map falls back to: another map of the registry, or one index for all labels. -/
inductive MapReference
  | map (number : Nat)
  | constant (index : Nat)

abbrev MapRegistry := List (LabelMap MapReference)

namespace MapRegistry

/-- What the reference says about a label, following at most `depth` references in a row. -/
def resolve (registry : MapRegistry) (depth : Nat) : MapReference → LabelIndices
  | .constant index => fun _ => some index
  | .map number => fun label =>
    match depth with
    | 0 => none
    | depth + 1 =>
      (registry[number]?).bind fun m =>
        m.find (fun reference => resolve registry depth reference) label

/-- The maps do not fall back to themselves, so a chain of references is no longer than the
registry. -/
def find (registry : MapRegistry) (number : Nat) : LabelIndices :=
  registry.resolve registry.length (.map number)

def create (registry : MapRegistry) : MapRegistry := registry ++ [LabelMap.empty]

def putAll (registry : MapRegistry) (number : Nat) (entries : List (Label × Nat)) : MapRegistry :=
  registry.modify number fun m => m.putAll entries

/-- Puts an entry for an unknown label into the map, and tells whether it did. -/
def tryPut (registry : MapRegistry) (number : Nat) (label : Label) (index : Nat) :
    Bool × MapRegistry :=
  match registry[number]? with
  | none => (false, registry)
  | some m =>
    let (isNew, m) := m.tryPut (registry.resolve registry.length) label index
    (isNew, registry.set number m)

def putIfUnknown (registry : MapRegistry) (number : Nat) (label : Label) (index : Nat) :
    MapRegistry :=
  (registry.tryPut number label index).2

def add (registry : MapRegistry) (number : Nat) (fallback : MapReference) : MapRegistry :=
  registry.modify number fun m => m.add fallback

def mergeWith (registry : MapRegistry) (number other : Nat) : MapRegistry :=
  match registry[other]? with
  | none => registry
  | some otherMap =>
    registry.modify number fun m => m.mergeWith (registry.resolve registry.length) otherMap

end MapRegistry

end ClassMatch
