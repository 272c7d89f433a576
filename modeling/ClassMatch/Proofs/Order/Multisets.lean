import ClassMatch.Proofs.Order.Preorder

/-!
Lists compared out of order. Under a total preorder of their elements such lists are compared as
multisets are: how they are arranged makes no difference, lists are equal exactly if some bijection
of their positions matches equal elements, and the order of lists is a total preorder again, so it
can order the elements of further lists.
-/
namespace ClassMatch

open Std

variable {α β : Type}

/-- Pairing up is a bijection of positions. -/
theorem pairUp_iff_exists_equiv {r : α → β → Prop} {as : List α} {bs : List β} :
    PairUp r as bs ↔
      ∃ σ : Fin as.length ≃ Fin bs.length, ∀ i, r (as.get i) (bs.get (σ i)) := by
  constructor
  · rintro ⟨bs', hr, hbs⟩
    -- The elements of the arrangement are known by their positions in the second list.
    have hplaces : List.Forall₂ (fun b i => b = bs.get i) bs (List.finRange bs.length) := by
      rw [← List.forall₂_map_right_iff (R := (· = ·)), List.forall₂_eq_eq_eq, List.map_get_finRange]
    obtain ⟨places, hplace, hperm⟩ := List.perm_comp_forall₂ hbs hplaces
    have hplaced : List.Forall₂ (fun a i => r a (bs.get i)) as places :=
      forall₂_trans (fun hab hbi => hbi ▸ hab) hr hplace
    have hnodup : places.Nodup := hperm.nodup_iff.mpr (List.nodup_finRange _)
    have hall (i : Fin bs.length) : i ∈ places := hperm.mem_iff.mpr (List.mem_finRange i)
    refine ⟨(finCongr hplaced.length_eq).trans (hnodup.getEquivOfForallMemList places hall),
      fun i => ?_⟩
    exact hplaced.get i.2 (hplaced.length_eq ▸ i.2)
  · rintro ⟨σ, hσ⟩
    have hlen : as.length = bs.length := Fin.equiv_iff_eq.mp ⟨σ⟩
    refine ⟨List.ofFn fun i => bs.get (σ i), ?_, ?_⟩
    · refine List.forall₂_iff_get.mpr ⟨by simp, fun i hi _ => ?_⟩
      simpa using hσ ⟨i, hi⟩
    · have hperm : ((List.finRange as.length).map σ).Perm (List.finRange bs.length) := by
        rw [List.perm_ext_iff_of_nodup ((List.nodup_finRange _).map σ.injective)
          (List.nodup_finRange _)]
        intro i
        simpa using σ.surjective i
      have hget := hperm.map bs.get
      rwa [List.map_get_finRange, List.map_map, ← List.ofFn_eq_map] at hget

section Arranged

variable {cmp : α → α → Ordering} [TransCmp cmp]

/-- Lists out of order are compared like any ascending arrangements of them. -/
theorem compareUnordered_of_ascending {as as' bs bs' : List α} (has : as'.Perm as)
    (hbs : bs'.Perm bs) (ha : as'.Pairwise fun a b => (cmp a b).isLE)
    (hb : bs'.Pairwise fun a b => (cmp a b).isLE) :
    compareUnordered cmp as bs = compareLists cmp as' bs' := by
  have hsorted {cs cs' : List α} (hcs : cs'.Perm cs)
      (hc : cs'.Pairwise fun a b => (cmp a b).isLE) : compareLists cmp (sortBy cmp cs) cs' = .eq :=
    compareLists_eq_eq.mpr (forall₂_of_ascending cmp (pairwise_sortBy cmp cs) hc
      ((sortBy_perm cmp cs).trans hcs.symm))
  rw [compareUnordered_eq_compareLists, TransCmp.congr_left (hsorted has ha),
    TransCmp.congr_right (hsorted hbs hb)]

theorem compareUnordered_congr_perm {as as' bs bs' : List α} (has : as.Perm as')
    (hbs : bs.Perm bs') : compareUnordered cmp as' bs' = compareUnordered cmp as bs := by
  have hsorted {cs cs' : List α} (h : cs.Perm cs') : (sortBy cmp cs).Perm cs' :=
    (sortBy_perm cmp cs).trans h
  rw [compareUnordered_of_ascending (hsorted has) (hsorted hbs) (pairwise_sortBy cmp as)
    (pairwise_sortBy cmp bs), compareUnordered_eq_compareLists]

end Arranged

/-- The lists of elements of a set. -/
def listsOver (s : Set α) : Set (List α) := {as | ∀ a ∈ as, a ∈ s}

theorem mem_append_of_listsOver {s : Set α} {as bs : List α} (ha : as ∈ listsOver s)
    (hb : bs ∈ listsOver s) : ∀ a ∈ as ++ bs, a ∈ s := by
  intro a h
  exact (List.mem_append.mp h).elim (ha a) (hb a)

theorem TotalPreorderOn.compareUnordered_eq_eq {s : Set α} {cmp : α → α → Ordering}
    (h : TotalPreorderOn s cmp) {as bs : List α} (ha : as ∈ listsOver s) (hb : bs ∈ listsOver s) :
    compareUnordered cmp as bs = .eq ↔ PairUp (fun a b => cmp a b = .eq) as bs := by
  obtain ⟨cmp', ht, heq⟩ := h.exists_transCmp
  have hall := mem_append_of_listsOver ha hb
  rw [compareUnordered_congr fun a hab b hab' => heq a (hall a hab) b (hall b hab'),
    ClassMatch.compareUnordered_eq_eq]
  constructor
  · exact pairUp_imp fun a has b hbs hab => (heq a (ha a has) b (hb b hbs)).trans hab
  · exact pairUp_imp fun a has b hbs hab => (heq a (ha a has) b (hb b hbs)).symm.trans hab

/-- On the lists over a set on which the elements are ordered by a total preorder, the order out of
order finds lists equal exactly if a bijection of positions matches equal elements, it gives the
same for permuted lists, and it is a total preorder. -/
theorem compareUnordered_orders_multisets {s : Set α} {cmp : α → α → Ordering}
    (h : TotalPreorderOn s cmp) :
    (∀ as ∈ listsOver s, ∀ bs ∈ listsOver s,
      (compareUnordered cmp as bs = .eq ↔
        ∃ σ : Fin as.length ≃ Fin bs.length, ∀ i, cmp (as.get i) (bs.get (σ i)) = .eq)) ∧
    (∀ as ∈ listsOver s, ∀ bs ∈ listsOver s, ∀ as' bs', as.Perm as' → bs.Perm bs' →
      compareUnordered cmp as' bs' = compareUnordered cmp as bs) ∧
    TotalPreorderOn (listsOver s) (compareUnordered cmp) := by
  obtain ⟨cmp', ht, heq⟩ := h.exists_transCmp
  have hlists : ∀ as ∈ listsOver s, ∀ bs ∈ listsOver s,
      compareUnordered cmp as bs = compareUnordered cmp' as bs := by
    intro as ha bs hb
    have hall := mem_append_of_listsOver ha hb
    exact compareUnordered_congr fun a hab b hab' => heq a (hall a hab) b (hall b hab')
  refine ⟨fun as ha bs hb => ?_, fun as ha bs hb as' bs' has hbs => ?_, ?_⟩
  · rw [h.compareUnordered_eq_eq ha hb, pairUp_iff_exists_equiv]
  · have ha' : as' ∈ listsOver s := fun a h => ha a (has.mem_iff.mpr h)
    have hb' : bs' ∈ listsOver s := fun b h => hb b (hbs.mem_iff.mpr h)
    rw [hlists as ha bs hb, hlists as' ha' bs' hb', compareUnordered_congr_perm has hbs]
  · exact totalPreorderOn_of_eq inferInstance hlists

/-- Lists of lists of masks, in which a mask is as good as another one with the same flags. -/
theorem compareUnordered_orders_nested_multisets :
    ∃ σ : Fin 2 ≃ Fin 2, ∀ i, compareUnordered Access.compare
      ([[⟨1, .onField⟩, ⟨2, .onField⟩], [⟨1, .onField⟩]].get i)
      ([[⟨0x10001, .onField⟩], [⟨2, .onField⟩, ⟨1, .onField⟩]].get (σ i)) = .eq := by
  have hmasks : TotalPreorderOn Set.univ Access.compare :=
    totalPreorderOn_of_eq inferInstance fun _ _ _ _ => rfl
  have hlists := (compareUnordered_orders_multisets hmasks).2.2
  have hall (ass : List (List Access)) : ass ∈ listsOver (listsOver Set.univ) :=
    fun _ _ _ _ => trivial
  exact ((compareUnordered_orders_multisets hlists).1
    [[⟨1, .onField⟩, ⟨2, .onField⟩], [⟨1, .onField⟩]] (hall _)
    [[⟨0x10001, .onField⟩], [⟨2, .onField⟩, ⟨1, .onField⟩]] (hall _)).mp (by decide)

end ClassMatch
