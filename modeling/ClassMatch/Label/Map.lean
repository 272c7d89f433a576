import ClassMatch.Tree.Label

/-!
Maps from labels to indices with fallbacks for the labels they do not hold. A fallback is known by
a reference of any type `ρ`, which is resolved only when a label is looked up.
-/
namespace ClassMatch

/-- A label has at most one own entry. -/
structure LabelMap (ρ : Type) where
  /-- The own entries in the order in which they are gone through, which is any order. -/
  entries : List (Label × Nat)
  fallbacks : List ρ
  distinct : (entries.map Prod.fst).Nodup

namespace LabelMap

variable {ρ : Type}

def empty : LabelMap ρ := ⟨[], [], .nil⟩

def size (m : LabelMap ρ) : Nat := m.entries.length

def isEmpty (m : LabelMap ρ) : Bool := m.entries.isEmpty

/-- The own entry of the label. -/
def own? (m : LabelMap ρ) (label : Label) : Option Nat := m.entries.lookup label

/-- The own entry of the label, or else what the first fallback that knows the label says. -/
def find (resolve : ρ → LabelIndices) (m : LabelMap ρ) : LabelIndices := fun label =>
  (m.own? label).or (m.fallbacks.findSome? fun fallback => resolve fallback label)

/-- The map in which the label has this own entry and no other. -/
def put (m : LabelMap ρ) (label : Label) (index : Nat) : LabelMap ρ :=
  { m with
    entries := (label, index) :: m.entries.filter fun entry => entry.1 ≠ label
    distinct := List.nodup_cons.mpr
      ⟨by simp, m.distinct.sublist (List.filter_sublist.map Prod.fst)⟩ }

theorem own?_put (m : LabelMap ρ) (label other : Label) (index : Nat) :
    (m.put label index).own? other = if other = label then some index else m.own? other := by
  by_cases same : other = label
  · simp [own?, put, same]
  · have key (entries : List (Label × Nat)) :
        (entries.filter fun entry => entry.1 ≠ label).lookup other = entries.lookup other := by
      induction entries with
      | nil => rfl
      | cons entry rest ih =>
        obtain ⟨l, i⟩ := entry
        by_cases hl : l = label
        · subst hl
          simpa [List.lookup_cons, beq_false_of_ne same] using ih
        · simp only [ne_eq, hl, not_false_eq_true, decide_true, List.filter_cons_of_pos,
            List.lookup_cons]
          rw [← ih]
    simp only [own?, put, List.lookup_cons, beq_false_of_ne same, key, same, if_false]

/-- Of several entries for a label the last one stays. -/
def putAll (m : LabelMap ρ) (entries : List (Label × Nat)) : LabelMap ρ :=
  entries.foldl (fun m (label, index) => m.put label index) m

/-- Puts an entry for a label that cannot be found, in a fallback or otherwise, and tells whether
it did. -/
def tryPut (resolve : ρ → LabelIndices) (m : LabelMap ρ) (label : Label) (index : Nat) :
    Bool × LabelMap ρ :=
  if (m.find resolve label).isSome then (false, m) else (true, m.put label index)

/-- A label that can be found, in a fallback or otherwise, keeps its index. -/
def putIfUnknown (resolve : ρ → LabelIndices) (m : LabelMap ρ) (label : Label) (index : Nat) :
    LabelMap ρ :=
  (m.tryPut resolve label index).2

/-- Of several entries for an unknown label the first one stays. -/
def putAllIfUnknown (resolve : ρ → LabelIndices) (m : LabelMap ρ) (entries : List (Label × Nat)) :
    LabelMap ρ :=
  entries.foldl (fun m (label, index) => m.putIfUnknown resolve label index) m

/-- Asks the fallback last. -/
def add (m : LabelMap ρ) (fallback : ρ) : LabelMap ρ :=
  { m with fallbacks := m.fallbacks ++ [fallback] }

/-- Takes over the other map's own entries for labels that are unknown here. -/
def mergeWith (resolve : ρ → LabelIndices) (m other : LabelMap ρ) : LabelMap ρ :=
  m.putAllIfUnknown resolve other.entries

end LabelMap

end ClassMatch
