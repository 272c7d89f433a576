import ClassMatch.Label.Map
import Mathlib

/-!
What a label map finds after any history of calls. Only entries that are put overwrite an index
that is known already; all other calls offer an index, and the first offer for a label that is
unknown is the one that counts. So the whole history can be told from the last entry that was put
for a label and the first offer that was made for it.
-/
namespace ClassMatch

section Entries

variable {entries others : List (Label × Nat)} {label other : Label} {index : Nat}

/-- The index in the last of the entries for the label. -/
def lastIndex? (label : Label) (entries : List (Label × Nat)) : Option Nat :=
  ((entries.filter fun entry => entry.1 = label).getLast?).map Prod.snd

theorem lastIndex?_append : lastIndex? label (entries ++ others) =
    (lastIndex? label others).or (lastIndex? label entries) := by
  rw [lastIndex?, List.filter_append, List.getLast?_append, Option.map_or]
  rfl

theorem lastIndex?_singleton :
    lastIndex? label [(other, index)] = if label = other then some index else none := by
  by_cases h : label = other
  · simp [lastIndex?, h]
  · simp [lastIndex?, h, Ne.symm h]

theorem lastIndex?_cons : lastIndex? label ((other, index) :: entries) =
    (lastIndex? label entries).or (if label = other then some index else none) := by
  rw [← List.singleton_append, lastIndex?_append, lastIndex?_singleton]

theorem lookup_cons_if : ((other, index) :: entries).lookup label =
    if label = other then some index else entries.lookup label := by
  by_cases h : label = other
  · simp [h]
  · rw [List.lookup_cons, beq_false_of_ne h, if_neg h]

theorem lookup_eq_none_iff_notMem :
    entries.lookup label = none ↔ label ∉ entries.map Prod.fst := by
  rw [List.lookup_eq_none_iff, List.mem_map]
  constructor
  · rintro h ⟨entry, hentry, rfl⟩
    exact bne_iff_ne.mp (h entry hentry) rfl
  · intro h entry hentry
    exact bne_iff_ne.mpr fun hl => h ⟨entry, hentry, hl.symm⟩

/-- Where no label is listed twice, looking it up is finding its entry. -/
theorem lookup_eq_some_iff_mem (h : (entries.map Prod.fst).Nodup) :
    entries.lookup label = some index ↔ (label, index) ∈ entries := by
  induction entries with
  | nil => simp
  | cons entry entries ih =>
    obtain ⟨other, i⟩ := entry
    obtain ⟨hother, hrest⟩ := List.nodup_cons.mp h
    rw [lookup_cons_if, List.mem_cons, Prod.mk.injEq]
    split
    · next hl =>
      subst hl
      have hmem : (label, index) ∉ entries := fun hm => hother (List.mem_map.mpr ⟨_, hm, rfl⟩)
      simp [hmem, eq_comm]
    · next hl => simp [ih hrest, hl]

/-- The order in which entries are listed does not matter. -/
theorem lookup_eq_of_perm (h : (entries.map Prod.fst).Nodup) (hp : others.Perm entries) :
    others.lookup label = entries.lookup label := by
  refine Option.ext fun index => ?_
  rw [lookup_eq_some_iff_mem h, lookup_eq_some_iff_mem ((hp.map Prod.fst).nodup_iff.mpr h),
    hp.mem_iff]

theorem lastIndex?_eq_lookup (h : (entries.map Prod.fst).Nodup) :
    lastIndex? label entries = entries.lookup label := by
  induction entries with
  | nil => rfl
  | cons entry entries ih =>
    obtain ⟨other, i⟩ := entry
    obtain ⟨hother, hrest⟩ := List.nodup_cons.mp h
    rw [lastIndex?_cons, lookup_cons_if, ih hrest]
    split
    · next hl => rw [hl, lookup_eq_none_iff_notMem.mpr hother, Option.none_or]
    · exact Option.or_none

end Entries

namespace LabelMap

variable {ρ : Type} {resolve : ρ → LabelIndices} {m : LabelMap ρ} {label other : Label}
  {index : Nat}

theorem find_put : (m.put other index).find resolve label =
    if label = other then some index else m.find resolve label := by
  rw [find, own?_put]
  split
  · rfl
  · rfl

theorem find_of_fallbacks_eq_nil (h : m.fallbacks = []) :
    m.find resolve label = m.own? label := by
  rw [find, h, List.findSome?_nil, Option.or_none]

theorem putAll_fallbacks (entries : List (Label × Nat)) :
    (m.putAll entries).fallbacks = m.fallbacks := by
  induction entries generalizing m with
  | nil => rfl
  | cons entry entries ih => exact (@ih (m.put entry.1 entry.2)).trans rfl

theorem putIfUnknown_fallbacks : (m.putIfUnknown resolve label index).fallbacks = m.fallbacks := by
  unfold putIfUnknown tryPut
  split <;> rfl

theorem putAllIfUnknown_fallbacks (entries : List (Label × Nat)) :
    (m.putAllIfUnknown resolve entries).fallbacks = m.fallbacks := by
  induction entries generalizing m with
  | nil => rfl
  | cons entry entries ih =>
    exact (@ih (m.putIfUnknown resolve entry.1 entry.2)).trans putIfUnknown_fallbacks

/-- The size of a map is the number of labels that it holds itself. -/
theorem size_eq_card {labels : List Label} (h : ∀ label, label ∈ labels ↔ m.own? label ≠ none) :
    m.size = labels.toFinset.card := by
  have hlabels : (m.entries.map Prod.fst).toFinset = labels.toFinset := by
    ext label
    rw [List.mem_toFinset, List.mem_toFinset, h, own?, Ne, lookup_eq_none_iff_notMem, not_not]
  rw [← hlabels, List.toFinset_card_of_nodup m.distinct, List.length_map, size]

/-- The last entry for a label wins. -/
theorem find_putAll (entries : List (Label × Nat)) : (m.putAll entries).find resolve label =
    (lastIndex? label entries).or (m.find resolve label) := by
  induction entries generalizing m with
  | nil => rfl
  | cons entry entries ih =>
    obtain ⟨other, index⟩ := entry
    have hstep : (m.putAll ((other, index) :: entries)) = (m.put other index).putAll entries := rfl
    rw [hstep, ih, find_put, lastIndex?_cons, Option.or_assoc]
    congr 1
    split <;> rfl

/-- A label that is known stays what it is, and one that is not gets the index. -/
theorem find_putIfUnknown : (m.putIfUnknown resolve other index).find resolve label =
    (m.find resolve label).or (if label = other then some index else none) := by
  unfold putIfUnknown tryPut
  by_cases hl : label = other
  · subst hl
    cases hf : m.find resolve label with
    | none => simp [find_put]
    | some known => simp [hf]
  · split
    · simp
    · simp [find_put, hl]

theorem find_putAllIfUnknown (entries : List (Label × Nat)) :
    (m.putAllIfUnknown resolve entries).find resolve label =
      (m.find resolve label).or (entries.lookup label) := by
  induction entries generalizing m with
  | nil => simp [putAllIfUnknown]
  | cons entry entries ih =>
    obtain ⟨other, index⟩ := entry
    have hstep : m.putAllIfUnknown resolve ((other, index) :: entries) =
        (m.putIfUnknown resolve other index).putAllIfUnknown resolve entries := rfl
    rw [hstep, ih, find_putIfUnknown, Option.or_assoc, lookup_cons_if]
    congr 1
    split <;> rfl

/-- The fallback is asked when nothing else knows the label. -/
theorem find_add (fallback : ρ) : (m.add fallback).find resolve label =
    (m.find resolve label).or (resolve fallback label) := by
  rw [find, add, List.findSome?_append, ← Option.or_assoc]
  simp [find, own?]

theorem find_mergeWith (source : LabelMap ρ) : (m.mergeWith resolve source).find resolve label =
    (m.find resolve label).or (source.own? label) :=
  find_putAllIfUnknown source.entries

/-- A map tells whether it has put an entry, which it has exactly if the label was unknown. -/
theorem tryPut_fst : (m.tryPut resolve label index).1 = true ↔ m.find resolve label = none := by
  unfold tryPut
  cases m.find resolve label <;> simp

/-- A call that changes a map. -/
inductive Call (ρ : Type)
  | putAll (entries : List (Label × Nat))
  | putIfUnknown (label : Label) (index : Nat)
  | add (fallback : ρ)
  | mergeWith (source : LabelMap ρ)

/-- The map after the call. -/
def afterCall (resolve : ρ → LabelIndices) (m : LabelMap ρ) : Call ρ → LabelMap ρ
  | .putAll entries => m.putAll entries
  | .putIfUnknown label index => m.putIfUnknown resolve label index
  | .add fallback => m.add fallback
  | .mergeWith source => m.mergeWith resolve source

/-- The map after all of the calls, one after the other. -/
def afterCalls (resolve : ρ → LabelIndices) (m : LabelMap ρ) (calls : List (Call ρ)) : LabelMap ρ :=
  calls.foldl (afterCall resolve) m

namespace Call

/-- The entries that the call puts whether their labels are known or not. -/
def entries : Call ρ → List (Label × Nat)
  | putAll entries => entries
  | _ => []

/-- The index that the call has for the label if it is unknown. -/
def offer? (resolve : ρ → LabelIndices) (label : Label) : Call ρ → Option Nat
  | putAll _ => none
  | putIfUnknown other index => if label = other then some index else none
  | add fallback => resolve fallback label
  | mergeWith source => source.own? label

end Call

theorem find_afterCall (call : Call ρ) : (m.afterCall resolve call).find resolve label =
    (lastIndex? label call.entries).or
      ((m.find resolve label).or (call.offer? resolve label)) := by
  cases call with
  | putAll entries => exact (find_putAll entries).trans (by rw [Call.offer?, Option.or_none]; rfl)
  | putIfUnknown other index => exact find_putIfUnknown
  | add fallback => exact find_add fallback
  | mergeWith source => exact find_mergeWith source

/-- After any history a label has the index that was put last, or else the one it had before, or
else the first one that was offered. -/
theorem find_afterCalls (calls : List (Call ρ)) :
    (m.afterCalls resolve calls).find resolve label =
      (lastIndex? label (calls.flatMap Call.entries)).or
        ((m.find resolve label).or (calls.findSome? (Call.offer? resolve label))) := by
  induction calls generalizing m with
  | nil => simp [afterCalls, lastIndex?]
  | cons call calls ih =>
    have hstep : m.afterCalls resolve (call :: calls) =
        (m.afterCall resolve call).afterCalls resolve calls := rfl
    have hoffer : (call :: calls).findSome? (Call.offer? resolve label) =
        (call.offer? resolve label).or (calls.findSome? (Call.offer? resolve label)) := by
      rw [List.findSome?_cons]
      cases call.offer? resolve label <;> rfl
    rw [hstep, ih, find_afterCall, List.flatMap_cons, lastIndex?_append, hoffer]
    simp only [Option.or_assoc]

/-- A label that is known stays known, whatever happens to the map, and has the same index until
another one is put for it; of all the entries that are put for it the last one counts. Trying to put
an entry succeeds exactly if the label is unknown, which it is no longer then. Merging gives an
unknown label the other map's own entry, in whatever order that map goes through its entries. -/
theorem find_stays (resolve : ρ → LabelIndices) (m : LabelMap ρ) (label : Label) :
    (∀ (calls : List (Call ρ)) (index : Nat), m.find resolve label = some index →
      (m.afterCalls resolve calls).find resolve label =
        some ((lastIndex? label (calls.flatMap Call.entries)).getD index)) ∧
    (∀ index : Nat,
      ((m.tryPut resolve label index).1 = true ↔ m.find resolve label = none) ∧
      ((m.tryPut resolve label index).1 = true →
        (m.tryPut resolve label index).2.find resolve label = some index)) ∧
    ∀ source reordered : LabelMap ρ, reordered.entries.Perm source.entries →
      (m.mergeWith resolve reordered).find resolve label =
        (m.find resolve label).or (source.own? label) := by
  refine ⟨fun calls index hknown => ?_, fun index => ⟨tryPut_fst, fun hnew => ?_⟩,
    fun source reordered hperm => ?_⟩
  · rw [find_afterCalls, hknown, Option.some_or, Option.or_some]
  · have hput : (m.putIfUnknown resolve label index).find resolve label = some index := by
      rw [find_putIfUnknown, tryPut_fst.mp hnew, if_pos rfl, Option.none_or]
    exact hput
  · rw [find_mergeWith, own?, lookup_eq_of_perm source.distinct hperm]
    rfl

/-- A label that only a fallback knows, one that two entries are put for at once, and one that comes
from another map. -/
theorem find_stays_of_fallback :
    let m : LabelMap LabelIndices :=
      (empty.put ⟨0⟩ 3).add fun label => if label = ⟨1⟩ then some 2 else none
    let calls : List (Call LabelIndices) :=
      [.putIfUnknown ⟨1⟩ 8, .putAll [(⟨1⟩, 5), (⟨0⟩, 4), (⟨1⟩, 7)], .mergeWith (empty.put ⟨1⟩ 6),
        .add fun _ => some 9]
    m.find id ⟨1⟩ = some 2 ∧ (m.afterCalls id calls).find id ⟨1⟩ = some 7 ∧
      (m.tryPut id ⟨2⟩ 8).1 = true ∧ (m.tryPut id ⟨2⟩ 8).2.find id ⟨2⟩ = some 8 ∧
      (m.mergeWith id ((empty.put ⟨2⟩ 6).put ⟨1⟩ 5)).find id ⟨2⟩ = some 6 := by
  intro m calls
  have hnew : m.find id ⟨2⟩ = none := by decide
  have hput := (find_stays id m ⟨2⟩).2.1 8
  refine ⟨by decide, ?_, hput.1.mpr hnew, hput.2 (hput.1.mpr hnew), ?_⟩
  · rw [(find_stays id m ⟨1⟩).1 calls 2 (by decide)]
    decide
  · rw [(find_stays id m ⟨2⟩).2.2 ((empty.put ⟨1⟩ 5).put ⟨2⟩ 6) ((empty.put ⟨2⟩ 6).put ⟨1⟩ 5)
      (.swap _ _ _), hnew]
    decide

end LabelMap

end ClassMatch
