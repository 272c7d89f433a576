import ClassMatch.Proofs.Order.Related

/-!
What sorting does under a total preorder: it puts the elements into ascending order and leaves
equal ones in the order in which they come, and two lists compare equal out of order exactly when
their elements pair up so that the elements of each pair compare equal.
-/
namespace ClassMatch

open Std

variable {α β γ : Type}

theorem compareElements_eq_eq {cmp : α → α → Ordering} {as bs : List α}
    (h : as.length = bs.length) :
    compareElements cmp as bs = .eq ↔ List.Forall₂ (fun a b => cmp a b = .eq) as bs := by
  induction as generalizing bs with
  | nil => cases bs with
    | nil => simp [compareElements]
    | cons => simp at h
  | cons a as ih => cases bs with
    | nil => simp at h
    | cons b bs =>
      have hlen : as.length = bs.length := by simpa using h
      simp [compareElements, ih hlen]

theorem compareLists_eq_eq {cmp : α → α → Ordering} {as bs : List α} :
    compareLists cmp as bs = .eq ↔ List.Forall₂ (fun a b => cmp a b = .eq) as bs := by
  rw [compareLists, Ordering.then_eq_eq, LawfulEqCmp.compare_eq_iff_eq]
  constructor
  · rintro ⟨hlen, h⟩
    exact (compareElements_eq_eq hlen).mp h
  · intro h
    exact ⟨h.length_eq, (compareElements_eq_eq h.length_eq).mpr h⟩

section Sorted

variable (cmp : α → α → Ordering) [TransCmp cmp]

theorem pairwise_insertDescending {a : α} {as : List α}
    (hs : as.Pairwise fun a b => (cmp b a).isLE) :
    (insertDescending cmp a as).Pairwise fun a b => (cmp b a).isLE := by
  induction as with
  | nil => simp [insertDescending]
  | cons b bs ih =>
    obtain ⟨hb, hbs⟩ := List.pairwise_cons.mp hs
    by_cases hlt : cmp a b = .lt
    · rw [insertDescending, if_pos hlt]
      refine List.pairwise_cons.mpr ⟨fun c hc => ?_, ih hbs⟩
      rcases List.mem_cons.mp ((insertDescending_perm cmp a bs).mem_iff.mp hc) with rfl | hc
      · simp [hlt]
      · exact hb c hc
    · rw [insertDescending, if_neg hlt]
      have hba : (cmp b a).isLE := by
        have hswap : cmp b a = (cmp a b).swap := OrientedCmp.eq_swap
        cases hab : cmp a b <;> simp_all
      refine List.pairwise_cons.mpr ⟨fun c hc => ?_, hs⟩
      rcases List.mem_cons.mp hc with rfl | hc
      · exact hba
      · exact TransCmp.isLE_trans (hb c hc) hba

/-- Sorting puts the elements into ascending order. -/
theorem pairwise_sortBy (as : List α) : (sortBy cmp as).Pairwise fun a b => (cmp a b).isLE := by
  have key (sorted : List α) (hs : sorted.Pairwise fun a b => (cmp b a).isLE) :
      (as.foldl (fun sorted a => insertDescending cmp a sorted) sorted).Pairwise
        fun a b => (cmp b a).isLE := by
    induction as generalizing sorted with
    | nil => exact hs
    | cons a as ih => exact ih _ (pairwise_insertDescending cmp hs)
  exact List.pairwise_reverse.mpr (key [] .nil)

/-- Two elements compare equal exactly when they compare alike with everything. -/
theorem cmp_eq_cmp_iff {a b : α} : cmp a = cmp b ↔ cmp a b = .eq := by
  constructor
  · intro h
    rw [h]
    exact ReflCmp.compare_self
  · intro h
    funext c
    exact TransCmp.congr_left h

/-- Two ascending arrangements of the same elements have equal ones in the same places. -/
theorem forall₂_of_ascending {as bs : List α} (ha : as.Pairwise fun a b => (cmp a b).isLE)
    (hb : bs.Pairwise fun a b => (cmp a b).isLE) (h : as.Perm bs) :
    List.Forall₂ (fun a b => cmp a b = .eq) as bs := by
  -- Elements are known by what they compare like: as such functions, equal elements are the same,
  -- and a list has only one ascending arrangement.
  let le (u v : α → Ordering) : Prop := ∃ a b, cmp a = u ∧ cmp b = v ∧ (cmp a b).isLE
  have hantisymm (u v : α → Ordering) (huv : le u v) (hvu : le v u) : u = v := by
    obtain ⟨a, b, rfl, rfl, hab⟩ := huv
    obtain ⟨b', a', hb, ha, hba⟩ := hvu
    rw [hb, TransCmp.congr_right ((cmp_eq_cmp_iff cmp).mp ha)] at hba
    exact (cmp_eq_cmp_iff cmp).mpr (OrientedCmp.isLE_antisymm hab hba)
  have hascending {cs : List α} (hc : cs.Pairwise fun a b => (cmp a b).isLE) :
      (cs.map cmp).Pairwise le :=
    List.pairwise_map.mpr (hc.imp fun {a b} hab => ⟨a, b, rfl, rfl, hab⟩)
  have heq := (h.map cmp).eq_of_pairwise (fun u v _ _ => hantisymm u v) (hascending ha)
    (hascending hb)
  rw [← List.forall₂_eq_eq_eq, List.forall₂_map_left_iff, List.forall₂_map_right_iff] at heq
  exact heq.imp fun a b hab => (cmp_eq_cmp_iff cmp).mp hab

/-- However a list is permuted, after sorting there are equal elements in the same places. -/
theorem forall₂_sortBy_of_perm {as bs : List α} (h : as.Perm bs) :
    List.Forall₂ (fun a b => cmp a b = .eq) (sortBy cmp as) (sortBy cmp bs) :=
  forall₂_of_ascending cmp (pairwise_sortBy cmp as) (pairwise_sortBy cmp bs)
    ((sortBy_perm cmp as).trans (h.trans (sortBy_perm cmp bs).symm))

end Sorted

section Stable

variable {cmp : α → α → Ordering}

theorem filter_insertDescending {p : α → Bool} (h : ∀ a b, p a → p b → cmp a b ≠ .lt) (a : α)
    (as : List α) : (insertDescending cmp a as).filter p = (a :: as).filter p := by
  induction as with
  | nil => rfl
  | cons b bs ih =>
    by_cases hlt : cmp a b = .lt
    · rw [insertDescending, if_pos hlt, List.filter_cons, ih]
      cases ha : p a with
      | false => simp [List.filter_cons, ha]
      | true =>
        have hb : p b = false := Bool.eq_false_iff.mpr fun hb => h a b ha hb hlt
        simp [ha, hb]
    · rw [insertDescending, if_neg hlt]

/-- Sorting keeps the order of elements none of which is below another. -/
theorem filter_sortBy {p : α → Bool} (h : ∀ a b, p a → p b → cmp a b ≠ .lt) (as : List α) :
    (sortBy cmp as).filter p = as.filter p := by
  have key (sorted : List α) :
      (as.foldl (fun sorted a => insertDescending cmp a sorted) sorted).filter p =
        (as.filter p).reverse ++ sorted.filter p := by
    induction as generalizing sorted with
    | nil => rfl
    | cons a as ih =>
      rw [List.foldl_cons, ih, filter_insertDescending h]
      cases ha : p a <;> simp [ha]
  rw [sortBy, sortDescending, List.filter_reverse, key []]
  simp

theorem isLE_of_filter_eq [TransCmp cmp] {a b : α} {as bs : List α}
    (hb : ∀ c ∈ bs, (cmp b c).isLE)
    (h : (a :: as).filter (fun c => cmp c a == .eq) = (b :: bs).filter fun c => cmp c a == .eq) :
    (cmp b a).isLE := by
  have hmem : a ∈ (b :: bs).filter fun c => cmp c a == .eq := by
    rw [← h]
    simp [ReflCmp.compare_self]
  rcases List.mem_cons.mp (List.mem_of_mem_filter hmem) with rfl | ha
  · simp [ReflCmp.compare_self]
  · exact hb a ha

/-- An ascending list is determined by the elements in each place of the order. -/
theorem eq_of_filter_eq [TransCmp cmp] {as bs : List α}
    (ha : as.Pairwise fun a b => (cmp a b).isLE) (hb : bs.Pairwise fun a b => (cmp a b).isLE)
    (h : ∀ c, as.filter (fun a => cmp a c == .eq) = bs.filter fun b => cmp b c == .eq) :
    as = bs := by
  induction as generalizing bs with
  | nil =>
    cases bs with
    | nil => rfl
    | cons b bs => simpa [ReflCmp.compare_self] using h b
  | cons a as ih =>
    cases bs with
    | nil => simpa [ReflCmp.compare_self] using h a
    | cons b bs =>
      obtain ⟨ha, has⟩ := List.pairwise_cons.mp ha
      obtain ⟨hb, hbs⟩ := List.pairwise_cons.mp hb
      have heq : cmp b a = .eq :=
        OrientedCmp.isLE_antisymm (isLE_of_filter_eq hb (h a)) (isLE_of_filter_eq ha (h b).symm)
      obtain ⟨rfl, -⟩ : a = b ∧ _ := by simpa [heq, ReflCmp.compare_self] using h a
      rw [ih has hbs fun c => ?_]
      have hc := h c
      cases hac : cmp a c == .eq <;> simpa [hac] using hc

/-- Sorting keeps the order of the elements in one place of the order. -/
theorem filter_sortBy_place [TransCmp cmp] (c : α) (as : List α) :
    (sortBy cmp as).filter (fun a => cmp a c == .eq) = as.filter fun a => cmp a c == .eq := by
  refine filter_sortBy (fun a b ha hb => ?_) as
  rw [beq_iff_eq] at ha hb
  rw [TransCmp.congr_left ha, OrientedCmp.eq_comm.mp hb]
  decide

/-- Sorting makes two lists the same exactly if, in each place of the order, they have the same
elements in the same order. -/
theorem sortBy_eq_sortBy_iff [TransCmp cmp] {as bs : List α} :
    sortBy cmp as = sortBy cmp bs ↔
      ∀ c, as.filter (fun a => cmp a c == .eq) = bs.filter fun b => cmp b c == .eq := by
  constructor
  · intro h c
    rw [← filter_sortBy_place, h, filter_sortBy_place]
  · intro h
    refine eq_of_filter_eq (pairwise_sortBy cmp as) (pairwise_sortBy cmp bs) fun c => ?_
    rw [filter_sortBy_place, filter_sortBy_place, h]

end Stable

theorem forall₂_and_mem {r : α → β → Prop} {as : List α} {bs : List β}
    (h : List.Forall₂ r as bs) : List.Forall₂ (fun a b => a ∈ as ∧ b ∈ bs ∧ r a b) as bs := by
  obtain ⟨hlen, hr⟩ := List.forall₂_iff_zip.mp h
  refine List.forall₂_iff_zip.mpr ⟨hlen, fun {a b} hab => ?_⟩
  exact ⟨(List.of_mem_zip hab).1, (List.of_mem_zip hab).2, hr hab⟩

theorem forall₂_imp_of_mem {r s : α → β → Prop} {as : List α} {bs : List β}
    (h : ∀ a ∈ as, ∀ b ∈ bs, r a b → s a b) (hr : List.Forall₂ r as bs) : List.Forall₂ s as bs :=
  (forall₂_and_mem hr).imp fun a b ⟨ha, hb, hab⟩ => h a ha b hb hab

theorem forall₂_iff_of_mem {r s : α → β → Prop} {as : List α} {bs : List β}
    (h : ∀ a ∈ as, ∀ b ∈ bs, r a b ↔ s a b) : List.Forall₂ r as bs ↔ List.Forall₂ s as bs :=
  ⟨forall₂_imp_of_mem fun a ha b hb => (h a ha b hb).mp,
    forall₂_imp_of_mem fun a ha b hb => (h a ha b hb).mpr⟩

theorem exists_mem_of_forall₂ {r : α → β → Prop} {as : List α} {bs : List β} {a : α}
    (h : List.Forall₂ r as bs) (ha : a ∈ as) : ∃ b ∈ bs, r a b := by
  induction h with
  | nil => simp at ha
  | @cons a' b' as bs hab h ih =>
    rcases List.mem_cons.mp ha with rfl | ha
    · exact ⟨b', by simp, hab⟩
    · obtain ⟨b, hb, hr⟩ := ih ha
      exact ⟨b, by simp [hb], hr⟩

theorem map_eq_map_iff_forall₂ {f : α → γ} {g : β → γ} {as : List α} {bs : List β} :
    as.map f = bs.map g ↔ List.Forall₂ (fun a b => f a = g b) as bs := by
  rw [← List.forall₂_eq_eq_eq, List.forall₂_map_left_iff, List.forall₂_map_right_iff]

theorem map_eq_iff_forall₂ {f : α → β} {as : List α} {bs : List β} :
    as.map f = bs ↔ List.Forall₂ (fun a b => f a = b) as bs := by
  rw [← List.forall₂_eq_eq_eq, List.forall₂_map_left_iff]

theorem forall₂_trans {p : α → β → Prop} {q : β → γ → Prop} {r : α → γ → Prop}
    (h : ∀ {a b c}, p a b → q b c → r a c) {as : List α} {bs : List β} {cs : List γ}
    (hp : List.Forall₂ p as bs) (hq : List.Forall₂ q bs cs) : List.Forall₂ r as cs := by
  induction hp generalizing cs with
  | nil => cases hq; exact .nil
  | cons hab hp ih =>
    cases hq with
    | cons hbc hq => exact .cons (h hab hbc) (ih hq)

theorem optionRel_refl {r : α → α → Prop} (hr : ∀ a, r a a) (o : Option α) :
    Option.Rel r o o := by
  cases o with
  | none => exact .none
  | some a => exact .some (hr a)

theorem optionRel_getD {r : α → β → Prop} {o : Option α} {p : Option β} {a : α} {b : β}
    (h : Option.Rel r o p) (hab : r a b) : r (o.getD a) (p.getD b) := by
  cases h with
  | none => exact hab
  | some h => exact h

theorem forall₂_self {r : α → α → Prop} (hr : ∀ a, r a a) (as : List α) :
    List.Forall₂ r as as := List.forall₂_same.mpr fun a _ => hr a

/-- The elements of two lists pair up, each with one of the other list, so that those of each pair
are related. -/
def PairUp (r : α → β → Prop) (as : List α) (bs : List β) : Prop :=
  ∃ bs', List.Forall₂ r as bs' ∧ bs'.Perm bs

theorem pairUp_of_perm {r : α → α → Prop} {as bs : List α} (hr : ∀ a ∈ as, r a a)
    (h : as.Perm bs) : PairUp r as bs := ⟨as, List.forall₂_same.mpr hr, h⟩

theorem pairUp_imp {r r' : α → β → Prop} {as : List α} {bs : List β}
    (h : ∀ a ∈ as, ∀ b ∈ bs, r a b → r' a b) (hp : PairUp r as bs) : PairUp r' as bs := by
  obtain ⟨bs', hr, hbs⟩ := hp
  refine ⟨bs', forall₂_imp_of_mem (fun a ha b hb => ?_) hr, hbs⟩
  exact h a ha b (hbs.mem_iff.mp hb)

theorem optionRel_pairUp_imp {r r' : α → β → Prop} {o : Option (List α)} {p : Option (List β)}
    (h : ∀ as, o = some as → ∀ bs, p = some bs → ∀ a ∈ as, ∀ b ∈ bs, r a b → r' a b)
    (hp : Option.Rel (PairUp r) o p) : Option.Rel (PairUp r') o p := by
  cases hp with
  | none => exact .none
  | some hp => exact .some (pairUp_imp (h _ rfl _ rfl) hp)

theorem pairUp_of_perm_left {r : α → β → Prop} {as as' : List α} {bs : List β}
    (h : as.Perm as') (hp : PairUp r as' bs) : PairUp r as bs := by
  obtain ⟨bs', hr, hbs⟩ := hp
  obtain ⟨bs'', hr', hbs'⟩ := List.perm_comp_forall₂ h hr
  exact ⟨bs'', hr', hbs'.trans hbs⟩

theorem pairUp_of_forall₂ {r : α → β → Prop} {as : List α} {bs : List β}
    (h : List.Forall₂ r as bs) : PairUp r as bs := ⟨bs, h, .refl bs⟩

theorem pairUp_refl {r : α → α → Prop} (hr : ∀ a, r a a) (as : List α) : PairUp r as as :=
  pairUp_of_forall₂ (forall₂_self hr as)

theorem pairUp_append {r : α → β → Prop} {as as' : List α} {bs bs' : List β}
    (h : PairUp r as bs) (h' : PairUp r as' bs') : PairUp r (as ++ as') (bs ++ bs') := by
  obtain ⟨cs, hr, hbs⟩ := h
  obtain ⟨cs', hr', hbs'⟩ := h'
  exact ⟨cs ++ cs', List.rel_append hr hr', hbs.append hbs'⟩

theorem pairUp_flatMap {δ : Type} {r : α → β → Prop} {s : γ → δ → Prop} {f : α → List γ}
    {g : β → List δ} {as : List α} {bs : List β}
    (hs : ∀ a b, r a b → List.Forall₂ s (f a) (g b)) (h : PairUp r as bs) :
    PairUp s (as.flatMap f) (bs.flatMap g) := by
  obtain ⟨bs', hr, hbs⟩ := h
  exact ⟨bs'.flatMap g, List.rel_flatMap hr hs, hbs.flatMap_right g⟩

theorem perm_map_of_pairUp {f : α → γ} {g : β → γ} {as : List α} {bs : List β}
    (h : PairUp (fun a b => f a = g b) as bs) : (as.map f).Perm (bs.map g) := by
  obtain ⟨bs', hr, hbs⟩ := h
  rw [map_eq_map_iff_forall₂.mpr hr]
  exact hbs.map g

/-- Elements with the same images pair up. -/
theorem pairUp_of_perm_map {f : α → γ} {g : β → γ} {as : List α} {bs : List β}
    (h : (as.map f).Perm (bs.map g)) : PairUp (fun a b => f a = g b) as bs := by
  have himages : List.Forall₂ (fun c b => c = g b) (bs.map g) bs :=
    List.forall₂_map_left_iff.mpr (List.forall₂_same.mpr fun _ _ => rfl)
  obtain ⟨bs', hr, hbs⟩ := List.perm_comp_forall₂ h himages
  exact ⟨bs', List.forall₂_map_left_iff.mp hr, hbs⟩

/-- Each element of either list has a partner in the other one. -/
theorem exists_mem_of_pairUp {r : α → β → Prop} {as : List α} {bs : List β} (h : PairUp r as bs) :
    (∀ a ∈ as, ∃ b ∈ bs, r a b) ∧ ∀ b ∈ bs, ∃ a ∈ as, r a b := by
  obtain ⟨bs', hr, hbs⟩ := h
  refine ⟨fun a ha => ?_, fun b hb => exists_mem_of_forall₂ hr.flip (hbs.mem_iff.mpr hb)⟩
  obtain ⟨b, hb, hab⟩ := exists_mem_of_forall₂ hr ha
  exact ⟨b, hbs.mem_iff.mp hb, hab⟩

/-- Lists whose elements pair up as the same ones are permutations of each other. -/
theorem pairUp_eq_iff {as bs : List α} : PairUp (fun a b => a = b) as bs ↔ as.Perm bs := by
  constructor
  · rintro ⟨bs', hr, hbs⟩
    rw [show (fun a b : α => a = b) = (· = ·) from rfl, List.forall₂_eq_eq_eq] at hr
    rwa [hr]
  · exact pairUp_of_perm fun a _ => rfl

theorem compareOptional_eq_eq {cmp : α → α → Ordering} {o p : Option α} :
    compareOptional cmp o p = .eq ↔ Option.Rel (fun a b => cmp a b = .eq) o p := by
  cases o <;> cases p <;> simp [compareOptional]

/-- Whatever the comparator is, only lists whose elements pair up as equal ones compare equal. -/
theorem pairUp_of_compareUnordered {cmp : α → α → Ordering} {as bs : List α}
    (h : compareUnordered cmp as bs = .eq) : PairUp (fun a b => cmp a b = .eq) as bs := by
  rw [compareUnordered_eq_compareLists, compareLists_eq_eq] at h
  exact pairUp_of_perm_left (sortBy_perm cmp as).symm ⟨_, h, sortBy_perm cmp bs⟩

/-- Lists compare equal out of order exactly when their elements pair up as equal ones. -/
theorem compareUnordered_eq_eq {cmp : α → α → Ordering} [TransCmp cmp] {as bs : List α} :
    compareUnordered cmp as bs = .eq ↔ PairUp (fun a b => cmp a b = .eq) as bs := by
  constructor
  · exact pairUp_of_compareUnordered
  · rintro ⟨bs', hr, hbs⟩
    rw [compareUnordered_eq_compareLists, compareLists_eq_eq]
    have hcmp (a b a' b' : α) (hab : cmp a b = .eq) (hab' : cmp a' b' = .eq) :
        cmp a a' = .lt ↔ cmp b b' = .lt := by
      rw [TransCmp.congr_left hab, TransCmp.congr_right hab']
    exact forall₂_trans (fun hab hbc => TransCmp.eq_trans hab hbc) (forall₂_sortBy hcmp hr)
      (forall₂_sortBy_of_perm cmp hbs)

theorem compareUnordered_of_perm {cmp : α → α → Ordering} [TransCmp cmp] {as bs : List α}
    (h : as.Perm bs) : compareUnordered cmp as bs = .eq :=
  compareUnordered_eq_eq.mpr (pairUp_of_perm (fun _ _ => ReflCmp.compare_self) h)

end ClassMatch
