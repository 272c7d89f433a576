import ClassMatch.Label.Map
import ClassMatch.Tree.Instruction

/-!
Labels numbered by their place. The ordinal of a label is the number of label instructions before
the first one that places it, so lists that differ only in the identity of their labels give the
same numbers in the same places.
-/
namespace ClassMatch

/-- The ordinal of each label that the instructions place. -/
def ordinals (instructions : List Instruction) : LabelIndices := fun label =>
  (placedLabels instructions).idxOf? label

/-- Goes through the instructions after those that have placed the labels seen, and lists the
others where they are first placed. Every label instruction takes an ordinal. -/
def numberFrom (seen : List Label) (ordinal : Nat) : List Instruction → List (Label × Nat)
  | [] => []
  | i :: rest =>
    match i.placed? with
    | none => numberFrom seen ordinal rest
    | some label =>
      if seen.contains label then numberFrom (label :: seen) (ordinal + 1) rest
      else (label, ordinal) :: numberFrom (label :: seen) (ordinal + 1) rest

/-- Every placed label once, in the order of first placement, with its ordinal. -/
def numberedLabels (instructions : List Instruction) : List (Label × Nat) :=
  numberFrom [] 0 instructions

/-- The labels of a list as a map, which finds the ordinals. -/
def numberedMap (instructions : List Instruction) : LabelMap LabelIndices :=
  LabelMap.empty.putAll (numberedLabels instructions)

/-- The labels of the actual list, and then those of the expected list that are not known yet. -/
def pairedMap (actual expected : List Instruction) : LabelMap LabelIndices :=
  (numberedMap actual).putAllIfUnknown id (numberedLabels expected)

/-- The ordinals of the actual list, and those of the expected list for labels placed only there. -/
def pairedOrdinals (actual expected : List Instruction) : LabelIndices :=
  (pairedMap actual expected).find id

/-- Number of labels that are known when two lists are compared. -/
def pairedCount (actual expected : List Instruction) : Nat := (pairedMap actual expected).size

end ClassMatch
