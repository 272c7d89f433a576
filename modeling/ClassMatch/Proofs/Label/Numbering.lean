import ClassMatch.Proofs.Label.Maps
import ClassMatch.Report.Event

/-!
The numbers of labels. Going through a list of instructions gives every label that it places one
number, the ordinal of the label, and what two lists know together are the numbers of the first
one, those of the second one for other labels, and then what is known around the lists.
-/
namespace ClassMatch

variable {instructions rest actual expected : List Instruction} {i : Instruction}
  {seen : List Label} {ordinal : Nat} {label placed : Label}

section Ordinals

theorem ordinals_eq_none :
    ordinals instructions label = none ↔ label ∉ placedLabels instructions := by
  simp [ordinals]

theorem placedLabels_cons_of_none (h : i.placed? = none) :
    placedLabels (i :: rest) = placedLabels rest := List.filterMap_cons_none h

theorem placedLabels_cons_of_some (h : i.placed? = some placed) :
    placedLabels (i :: rest) = placed :: placedLabels rest := List.filterMap_cons_some h

theorem ordinals_cons_of_none (h : i.placed? = none) : ordinals (i :: rest) = ordinals rest := by
  unfold ordinals
  rw [placedLabels_cons_of_none h]

theorem ordinals_cons_of_some (h : i.placed? = some placed) : ordinals (i :: rest) label =
    if placed = label then some 0 else (ordinals rest label).map (· + 1) := by
  rw [ordinals, placedLabels_cons_of_some h, List.idxOf?_cons]
  simp only [beq_iff_eq]
  rfl

/-- The number of label instructions before the first one that places the label. -/
def placesBefore (label : Label) (instructions : List Instruction) : Nat :=
  (instructions.takeWhile fun i => i.placed? ≠ some label).countP fun i => i.placed?.isSome

theorem ordinals_eq_placesBefore : ordinals instructions label =
    if label ∈ placedLabels instructions then some (placesBefore label instructions) else none := by
  induction instructions with
  | nil => rfl
  | cons i rest ih =>
    cases hi : i.placed? with
    | none =>
      rw [ordinals_cons_of_none hi, placedLabels_cons_of_none hi, ih]
      simp [placesBefore, hi]
    | some placed =>
      rw [ordinals_cons_of_some hi, placedLabels_cons_of_some hi, ih]
      by_cases hl : placed = label
      · simp [placesBefore, hi, hl]
      · simp [placesBefore, hi, hl, Ne.symm hl, apply_ite (Option.map (· + 1))]

end Ordinals

section Numbered

/-- The labels that are placed and were not seen before are listed, and no others. -/
theorem mem_numberFrom : label ∈ (numberFrom seen ordinal instructions).map Prod.fst ↔
    label ∈ placedLabels instructions ∧ label ∉ seen := by
  fun_induction numberFrom seen ordinal instructions with
  | case1 => simp [placedLabels]
  | case2 seen ordinal i rest hi ih => rw [placedLabels_cons_of_none hi, ih]
  | case3 seen ordinal i rest placed hi hp ih =>
    rw [placedLabels_cons_of_some hi, ih]
    grind
  | case4 seen ordinal i rest placed hi hp ih =>
    rw [placedLabels_cons_of_some hi, List.map_cons, List.mem_cons, ih]
    grind

theorem nodup_numberFrom : ((numberFrom seen ordinal instructions).map Prod.fst).Nodup := by
  fun_induction numberFrom seen ordinal instructions with
  | case1 => exact List.nodup_nil
  | case2 _ _ _ _ _ ih => exact ih
  | case3 _ _ _ _ _ _ _ ih => exact ih
  | case4 _ _ _ _ _ _ _ ih =>
    rw [List.map_cons, List.nodup_cons, mem_numberFrom]
    exact ⟨fun h => h.2 List.mem_cons_self, ih⟩

theorem le_of_mem_numberFrom {entry : Label × Nat}
    (h : entry ∈ numberFrom seen ordinal instructions) : ordinal ≤ entry.2 := by
  fun_induction numberFrom seen ordinal instructions with
  | case1 => cases h
  | case2 _ _ _ _ _ ih => exact ih h
  | case3 _ _ _ _ _ _ _ ih => exact Nat.le_of_succ_le (ih h)
  | case4 _ ordinal _ _ _ _ _ ih =>
    rcases List.mem_cons.mp h with rfl | h
    · exact Nat.le_refl ordinal
    · exact Nat.le_of_succ_le (ih h)

theorem pairwise_numberFrom :
    (numberFrom seen ordinal instructions).Pairwise fun a b => a.2 < b.2 := by
  fun_induction numberFrom seen ordinal instructions with
  | case1 => exact .nil
  | case2 _ _ _ _ _ ih => exact ih
  | case3 _ _ _ _ _ _ _ ih => exact ih
  | case4 _ _ _ _ _ _ _ ih =>
    exact .cons (fun entry hentry => Nat.lt_of_succ_le (le_of_mem_numberFrom hentry)) ih

/-- A label that was not seen before gets the ordinal that counting on gives it. -/
theorem lookup_numberFrom (h : label ∉ seen) : (numberFrom seen ordinal instructions).lookup label =
    (ordinals instructions label).map (ordinal + ·) := by
  -- After the first instruction that is a label, the count has gone on by one.
  have hlater (rest : List Instruction) (n : Nat) : (ordinals rest label).map (n + 1 + ·) =
      ((ordinals rest label).map (· + 1)).map (n + ·) := by
    rw [Option.map_map]
    congr 1
    funext k
    exact Nat.add_right_comm n 1 k
  fun_induction numberFrom seen ordinal instructions with
  | case1 => rfl
  | case2 seen ordinal i rest hi ih => rw [ordinals_cons_of_none hi, ih h]
  | case3 seen ordinal i rest placed hi hp ih =>
    have hl : placed ≠ label := fun hl => h (hl ▸ List.contains_iff_mem.mp hp)
    rw [ordinals_cons_of_some hi, if_neg hl, ih (by simp [h, hl.symm]), hlater]
  | case4 seen ordinal i rest placed hi hp ih =>
    rw [ordinals_cons_of_some hi, lookup_cons_if]
    by_cases hl : placed = label
    · rw [if_pos hl, if_pos hl.symm]
      rfl
    · rw [if_neg hl, if_neg (Ne.symm hl), ih (by simp [h, Ne.symm hl]), hlater]

theorem lookup_numberedLabels :
    (numberedLabels instructions).lookup label = ordinals instructions label := by
  rw [numberedLabels, lookup_numberFrom List.not_mem_nil]
  simp

theorem nodup_numberedLabels : ((numberedLabels instructions).map Prod.fst).Nodup :=
  nodup_numberFrom

theorem mem_numberedLabels {entry : Label × Nat} : entry ∈ numberedLabels instructions ↔
    entry.1 ∈ placedLabels instructions ∧ entry.2 = placesBefore entry.1 instructions := by
  rw [← lookup_eq_some_iff_mem nodup_numberedLabels, lookup_numberedLabels,
    ordinals_eq_placesBefore]
  split
  · next h => simp [h, eq_comm]
  · next h => simp [h]

theorem find_numberedMap : (numberedMap instructions).find id = ordinals instructions := by
  funext label
  have hempty : (LabelMap.empty : LabelMap LabelIndices).find id label = none := rfl
  rw [numberedMap, LabelMap.find_putAll, lastIndex?_eq_lookup nodup_numberedLabels, hempty,
    Option.or_none, lookup_numberedLabels]

end Numbered

section Pairs

theorem pairedOrdinals_apply : pairedOrdinals actual expected label =
    (ordinals actual label).or (ordinals expected label) := by
  rw [pairedOrdinals, pairedMap, LabelMap.find_putAllIfUnknown, find_numberedMap,
    lookup_numberedLabels]

theorem find_pairedMap_add (fallback : LabelIndices) :
    ((pairedMap actual expected).add fallback).find id =
      fun label => (pairedOrdinals actual expected label).or (fallback label) := by
  funext label
  exact LabelMap.find_add fallback

theorem pairedMap_fallbacks : (pairedMap actual expected).fallbacks = [] :=
  (LabelMap.putAllIfUnknown_fallbacks _).trans (LabelMap.putAll_fallbacks _)

theorem pairedCount_eq_card : pairedCount actual expected =
    (placedLabels actual ++ placedLabels expected).toFinset.card := by
  refine LabelMap.size_eq_card fun label => ?_
  rw [← @LabelMap.find_of_fallbacks_eq_nil _ id _ _ pairedMap_fallbacks, ← pairedOrdinals,
    pairedOrdinals_apply, Ne, Option.or_eq_none_iff, ordinals_eq_none, ordinals_eq_none,
    List.mem_append, not_and_or, not_not, not_not]

namespace Context

variable {ctx : Context}

theorem forInstructions_indices (hf : ctx.fixed = false) :
    (ctx.forInstructions actual expected).indices label =
      ((ordinals actual label).or (ordinals expected label)).or (ctx.indices label) := by
  simp [forInstructions, hf, find_pairedMap_add, pairedOrdinals_apply]

/-- Inside a pair of instruction lists a label is known by the number of label instructions before
its first place in the actual list, or else in the expected list, or else by what it is known by
around the lists. The numbers of a list are given to every label that it places, once, and increase
along the list. What is logged is how many labels the two lists place. -/
theorem forInstructions_numbers (ctx : Context) (hf : ctx.fixed = false)
    (actual expected : List Instruction) :
    (∀ label, (ctx.forInstructions actual expected).indices label =
      if label ∈ placedLabels actual then some (placesBefore label actual)
      else if label ∈ placedLabels expected then some (placesBefore label expected)
      else ctx.indices label) ∧
    (∀ instructions : List Instruction,
      ((numberedLabels instructions).map Prod.fst).Nodup ∧
      (∀ label index, (label, index) ∈ numberedLabels instructions ↔
        label ∈ placedLabels instructions ∧ index = placesBefore label instructions) ∧
      (numberedLabels instructions).Pairwise fun first second => first.2 < second.2) ∧
    ctx.pairEvents actual expected =
      [.resolvedLabels (placedLabels actual ++ placedLabels expected).toFinset.card] := by
  refine ⟨fun label => ?_, fun instructions => ⟨nodup_numberedLabels, fun _ _ =>
    mem_numberedLabels, pairwise_numberFrom⟩, ?_⟩
  · rw [forInstructions_indices hf, ordinals_eq_placesBefore, ordinals_eq_placesBefore]
    split
    · rfl
    · split <;> rfl
  · rw [pairEvents, hf, pairedCount_eq_card]
    rfl

/-- Two lists that share a label and place others again, and a label that neither of them places. -/
theorem forInstructions_numbers_of_shared_label :
    let ctx : Context := { plain with indices := fun _ => some 7 }
    let actual : List Instruction := [.label ⟨0⟩, .label ⟨1⟩, .label ⟨0⟩, .jump 167 ⟨4⟩, .label ⟨2⟩]
    let expected : List Instruction := [.label ⟨2⟩, .label ⟨3⟩, .label ⟨2⟩, .label ⟨0⟩]
    ctx.fixed = false ∧
      [0, 1, 2, 3, 4].map (fun id => (ctx.forInstructions actual expected).indices ⟨id⟩) =
        [some 0, some 1, some 3, some 1, some 7] ∧
      ctx.pairEvents actual expected = [.resolvedLabels 4] := by
  intro ctx actual expected
  obtain ⟨hindices, -, hevents⟩ := forInstructions_numbers ctx rfl actual expected
  refine ⟨rfl, ?_, ?_⟩
  · simp only [hindices]
    decide
  · rw [hevents]
    decide

end Context

end Pairs

end ClassMatch
