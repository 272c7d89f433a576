import ClassMatch.Proofs.Order.Combinators

/-!
Sorting and comparing look at nothing but comparisons: lists whose elements are related are sorted
alike and compare alike, if comparing related elements gives the same.
-/
namespace ClassMatch

variable {α β : Type}

theorem forall₂_map {r : α → β → Prop} {f : α → β} {as : List α} (h : ∀ a ∈ as, r a (f a)) :
    List.Forall₂ r as (as.map f) :=
  List.forall₂_map_right_iff.mpr (List.forall₂_same.mpr h)

section

variable {r : α → β → Prop} {cmp : α → α → Ordering} {cmp' : β → β → Ordering}

theorem forall₂_insertDescending {a : α} {b : β} {as : List α} {bs : List β}
    (h : ∀ a' b', r a' b' → (cmp a a' = .lt ↔ cmp' b b' = .lt)) (hab : r a b)
    (hs : List.Forall₂ r as bs) :
    List.Forall₂ r (insertDescending cmp a as) (insertDescending cmp' b bs) := by
  induction hs with
  | nil => exact .cons hab .nil
  | @cons a' b' as bs hab' hs ih =>
    by_cases hlt : cmp a a' = .lt
    · rw [insertDescending, if_pos hlt, insertDescending, if_pos ((h a' b' hab').mp hlt)]
      exact .cons hab' ih
    · rw [insertDescending, if_neg hlt, insertDescending,
        if_neg (fun hlt' => hlt ((h a' b' hab').mpr hlt'))]
      exact .cons hab (.cons hab' hs)

/-- Lists that are related element by element are so after sorting, if related elements stand in
the same order. -/
theorem forall₂_sortBy (h : ∀ a b a' b', r a b → r a' b' → (cmp a a' = .lt ↔ cmp' b b' = .lt))
    {as : List α} {bs : List β} (hs : List.Forall₂ r as bs) :
    List.Forall₂ r (sortBy cmp as) (sortBy cmp' bs) := by
  have key (sorted : List α) (sorted' : List β) (hsorted : List.Forall₂ r sorted sorted') :
      List.Forall₂ r (as.foldl (fun sorted a => insertDescending cmp a sorted) sorted)
        (bs.foldl (fun sorted b => insertDescending cmp' b sorted) sorted') := by
    induction hs generalizing sorted sorted' with
    | nil => exact hsorted
    | @cons a b as bs hab hs ih =>
      exact ih _ _ (forall₂_insertDescending (fun a' b' => h a b a' b' hab) hab hsorted)
  exact List.rel_reverse (key [] [] .nil)

/-- Sorting commutes with a map that keeps the order of the elements. -/
theorem sortBy_map {f : α → β} {as : List α}
    (h : ∀ a ∈ as, ∀ a' ∈ as, cmp' (f a) (f a') = cmp a a') :
    sortBy cmp' (as.map f) = (sortBy cmp as).map f := by
  have hmap : List.Forall₂ (fun a b => a ∈ as ∧ f a = b) as (as.map f) :=
    forall₂_map fun a ha => ⟨ha, rfl⟩
  have hcmp (a : α) (b : β) (a' : α) (b' : β) (hab : a ∈ as ∧ f a = b)
      (hab' : a' ∈ as ∧ f a' = b') : cmp a a' = .lt ↔ cmp' b b' = .lt := by
    rw [← hab.2, ← hab'.2, h a hab.1 a' hab'.1]
  have hsorted := forall₂_sortBy hcmp hmap
  rw [← List.forall₂_eq_eq_eq, List.forall₂_map_right_iff]
  exact hsorted.flip.imp fun b a hab => hab.2.symm

theorem compareElements_related (h : ∀ a b a' b', r a b → r a' b' → cmp a a' = cmp' b b')
    {as as' : List α} {bs bs' : List β} (hs : List.Forall₂ r as bs) (hs' : List.Forall₂ r as' bs') :
    compareElements cmp as as' = compareElements cmp' bs bs' := by
  induction hs generalizing as' bs' with
  | nil => cases hs' <;> rfl
  | @cons a b as bs hab hs ih =>
    cases hs' with
    | nil => rfl
    | @cons a' b' as' bs' hab' hs' =>
      rw [compareElements, compareElements, h a b a' b' hab hab', ih hs']

theorem compareLists_related (h : ∀ a b a' b', r a b → r a' b' → cmp a a' = cmp' b b')
    {as as' : List α} {bs bs' : List β} (hs : List.Forall₂ r as bs) (hs' : List.Forall₂ r as' bs') :
    compareLists cmp as as' = compareLists cmp' bs bs' := by
  rw [compareLists, compareLists, hs.length_eq, hs'.length_eq, compareElements_related h hs hs']

theorem compareUnordered_related (h : ∀ a b a' b', r a b → r a' b' → cmp a a' = cmp' b b')
    {as as' : List α} {bs bs' : List β} (hs : List.Forall₂ r as bs) (hs' : List.Forall₂ r as' bs') :
    compareUnordered cmp as as' = compareUnordered cmp' bs bs' := by
  have hlt (a : α) (b : β) (a' : α) (b' : β) (hab : r a b) (hab' : r a' b') :
      cmp a a' = .lt ↔ cmp' b b' = .lt := by
    rw [h a b a' b' hab hab']
  rw [compareUnordered_eq_compareLists, compareUnordered_eq_compareLists]
  exact compareLists_related h (forall₂_sortBy hlt hs) (forall₂_sortBy hlt hs')

end

section Mapped

variable {ι : Type} {map : ι → α → β} {good : ι → α → Prop} {cmp : α → α → Ordering}
  {cmp' : β → β → Ordering}

/-- The second element comes of the first one in one of the good ways. -/
def ComesOf (map : ι → α → β) (good : ι → α → Prop) (a : α) (b : β) : Prop :=
  ∃ f, good f a ∧ b = map f a

theorem forall₂_comesOf {f : ι} {as : List α} (h : ∀ a ∈ as, good f a) :
    List.Forall₂ (ComesOf map good) as (as.map (map f)) :=
  forall₂_map fun a ha => ⟨f, h a ha, rfl⟩

theorem compare_of_comesOf
    (h : ∀ f g a b, good f a → good g b → cmp' (map f a) (map g b) = cmp a b) (a : α) (a' : β)
    (b : α) (b' : β) (ha : ComesOf map good a a') (hb : ComesOf map good b b') :
    cmp a b = cmp' a' b' := by
  obtain ⟨f, ha, rfl⟩ := ha
  obtain ⟨g, hb, rfl⟩ := hb
  exact (h f g a b ha hb).symm

/-- Two lists mapped in ways of their own compare as they did before, if two elements do. -/
theorem compareLists_map
    (h : ∀ f g a b, good f a → good g b → cmp' (map f a) (map g b) = cmp a b) {f g : ι}
    {as bs : List α} (ha : ∀ a ∈ as, good f a) (hb : ∀ b ∈ bs, good g b) :
    compareLists cmp' (as.map (map f)) (bs.map (map g)) = compareLists cmp as bs :=
  (compareLists_related (compare_of_comesOf h) (forall₂_comesOf ha) (forall₂_comesOf hb)).symm

theorem compareUnordered_map
    (h : ∀ f g a b, good f a → good g b → cmp' (map f a) (map g b) = cmp a b) {f g : ι}
    {as bs : List α} (ha : ∀ a ∈ as, good f a) (hb : ∀ b ∈ bs, good g b) :
    compareUnordered cmp' (as.map (map f)) (bs.map (map g)) = compareUnordered cmp as bs :=
  (compareUnordered_related (compare_of_comesOf h) (forall₂_comesOf ha) (forall₂_comesOf hb)).symm

theorem compareOptionalUnordered_map
    (h : ∀ f g a b, good f a → good g b → cmp' (map f a) (map g b) = cmp a b) {f g : ι}
    {o p : Option (List α)} (ho : ∀ as, o = some as → ∀ a ∈ as, good f a)
    (hp : ∀ bs, p = some bs → ∀ b ∈ bs, good g b) :
    compareOptional (compareUnordered cmp') (o.map (List.map (map f))) (p.map (List.map (map g))) =
      compareOptional (compareUnordered cmp) o p := by
  cases o with
  | none => cases p <;> rfl
  | some as => cases p with
    | none => rfl
    | some bs => exact compareUnordered_map h (ho as rfl) (hp bs rfl)

end Mapped

theorem sortBy_congr {cmp cmp' : α → α → Ordering} {as : List α}
    (h : ∀ a ∈ as, ∀ a' ∈ as, cmp' a a' = cmp a a') : sortBy cmp' as = sortBy cmp as := by
  simpa using sortBy_map (f := id) h

/-- On lists of elements that compare alike, so do the lists. -/
theorem compareUnordered_congr {cmp cmp' : α → α → Ordering} {as bs : List α}
    (h : ∀ a ∈ as ++ bs, ∀ b ∈ as ++ bs, cmp a b = cmp' a b) :
    compareUnordered cmp as bs = compareUnordered cmp' as bs := by
  have hrel (a b a' b' : α) (hab : a ∈ as ++ bs ∧ a = b) (hab' : a' ∈ as ++ bs ∧ a' = b') :
      cmp a a' = cmp' b b' := by
    rw [← hab.2, ← hab'.2]
    exact h a hab.1 a' hab'.1
  exact compareUnordered_related hrel
    (List.forall₂_same.mpr fun a ha => ⟨List.mem_append_left bs ha, rfl⟩)
    (List.forall₂_same.mpr fun b hb => ⟨List.mem_append_right as hb, rfl⟩)

end ClassMatch
