import ClassMatch.Proofs.Check.Basic

/-!
Checks one by one. Elements with the same key are paired in the order in which they appear, so where
keys are repeated the order of a list counts. Where they are not, such a check passes exactly if the
lists are equal out of order.
-/
namespace ClassMatch

open Std

variable {α : Type}

section Keys

/-- Without the repeated ones, keys stand in the order in which they first appear. -/
theorem pairwise_eraseDups (ks : List String) :
    ks.eraseDups.Pairwise fun x y => ks.idxOf x < ks.idxOf y := by
  induction ks using List.reverseRecOn with
  | nil => simp
  | append_singleton ks k ih =>
    have hidx (x : String) (hx : x ∈ ks.eraseDups) : (ks ++ [k]).idxOf x = ks.idxOf x :=
      List.idxOf_append_of_mem (List.mem_eraseDups.mp hx)
    have hks : ks.eraseDups.Pairwise fun x y => (ks ++ [k]).idxOf x < (ks ++ [k]).idxOf y := by
      refine ih.imp_of_mem fun hx hy hxy => ?_
      rwa [hidx _ hx, hidx _ hy]
    rw [List.eraseDups_append]
    by_cases hk : k ∈ ks
    · simpa [List.removeAll, hk] using hks
    · have hlast : (ks ++ [k]).idxOf k = ks.length := by simp [List.idxOf_append_of_notMem hk]
      have hnew : ([k].removeAll ks).eraseDups = [k] := by
        simp [List.removeAll, hk, List.eraseDups_cons]
      rw [hnew, List.pairwise_append]
      refine ⟨hks, List.pairwise_singleton _ k, fun x hx y hy => ?_⟩
      rw [List.mem_singleton.mp hy, hlast, hidx x hx]
      exact List.idxOf_lt_length_of_mem (List.mem_eraseDups.mp hx)

theorem nodup_eraseDups (ks : List String) : ks.eraseDups.Nodup :=
  (pairwise_eraseDups ks).imp fun h heq => by simp [heq] at h

theorem count_flatMap_replicate {ks : List String} (hn : ks.Nodup) (f : String → Nat) (x : String) :
    (ks.flatMap fun k => List.replicate (f k) k).count x = if x ∈ ks then f x else 0 := by
  induction ks with
  | nil => simp
  | cons k ks ih =>
    obtain ⟨hk, hn⟩ := List.nodup_cons.mp hn
    rw [List.flatMap_cons, List.count_append, ih hn, List.count_replicate]
    by_cases hkx : k = x
    · subst hkx
      simp [hk]
    · simp [hkx, Ne.symm hkx]

theorem count_surplusKeys (own others : List String) (x : String) :
    (surplusKeys own others).count x = own.count x - others.count x := by
  rw [surplusKeys, count_flatMap_replicate (nodup_eraseDups own)]
  split_ifs with hx
  · rfl
  · rw [List.mem_eraseDups] at hx
    rw [List.count_eq_zero_of_not_mem hx, Nat.zero_sub]

theorem surplusKeys_eq_nil {own others : List String} :
    surplusKeys own others = [] ↔ ∀ key, own.count key ≤ others.count key := by
  simp only [List.eq_nil_iff_forall_not_mem, ← List.count_eq_zero, count_surplusKeys,
    Nat.sub_eq_zero_iff_le]

/-- Neither list has keys left over exactly if both have the same keys equally often. -/
theorem surplusKeys_eq_nil_iff_perm {actual expected : List String} :
    surplusKeys expected actual = [] ∧ surplusKeys actual expected = [] ↔ actual.Perm expected := by
  rw [surplusKeys_eq_nil, surplusKeys_eq_nil, List.perm_iff_count]
  constructor
  · rintro ⟨hle, hge⟩ key
    exact Nat.le_antisymm (hge key) (hle key)
  · intro h
    exact ⟨fun key => (h key).ge, fun key => (h key).le⟩

end Keys

section Reports

variable {k : Kind} {ctx : Context} {trail : Trail} {check : k.Node → k.Node → Check}
  {key : k.Node → String} {actual expected : List k.Node}

/-- The failure of a check one by one that is left with these keys. -/
def oneByOneFailure (k : Kind) (ctx : Context) (trail : Trail) (actual expected : List k.Node)
    (notFound notExpected : List String) : Failure where
  trail := trail
  message := anyOrderMessage (ctx.shortList k actual) (ctx.shortList k expected) "keys"
    (shown notFound) (shown notExpected) (!notFound.isEmpty) (!notExpected.isEmpty)
  comparator := none

/-- Where the keys differ, a check one by one ends with them, whatever the check of a pair is. -/
theorem run_checkOneByOne_of_not_perm (h : ¬ (actual.map key).Perm (expected.map key)) :
    (checkOneByOne k ctx check key (some actual) (some expected)).run trail =
      { events := [.pairedUp (actual.map key).eraseDups.length
          (surplusKeys (expected.map key) (actual.map key)).length
          (surplusKeys (actual.map key) (expected.map key)).length]
        failure := some (oneByOneFailure k ctx trail actual expected
          (surplusKeys (expected.map key) (actual.map key))
          (surplusKeys (actual.map key) (expected.map key))) } := by
  have hkeys : ¬ ((surplusKeys (expected.map key) (actual.map key)).isEmpty &&
      (surplusKeys (actual.map key) (expected.map key)).isEmpty) = true := by
    rwa [Bool.and_eq_true, List.isEmpty_iff, List.isEmpty_iff, surplusKeys_eq_nil_iff_perm]
  simp only [checkOneByOne, checkPresent, if_neg hkeys]
  rfl

/-- Where they do not, the pairs are checked in turn, each under the crumb of its actual element. -/
theorem failure_checkOneByOne_of_perm (h : (actual.map key).Perm (expected.map key)) :
    ((checkOneByOne k ctx check key (some actual) (some expected)).run trail).failure =
      (pairsByKey key actual expected).findSome? fun pair =>
        ((check pair.1 pair.2).run (trail.push (ctx.describe k pair.1))).failure := by
  obtain ⟨hnotFound, hnotExpected⟩ := surplusKeys_eq_nil_iff_perm.mpr h
  simp only [checkOneByOne, checkPresent, hnotFound, hnotExpected, List.isEmpty_nil, Bool.and_self,
    if_true, Check.failure_all, List.findSome?_cons, List.findSome?_nil, Check.log,
    List.findSome?_map, Function.comp_def, Check.failure_enter]
  split
  · next failure hfirst => exact hfirst.symm
  · next hnone => exact hnone.symm

/-- A check one by one pairs what has the same key and checks the pairs. -/
theorem passes_checkOneByOne {cmp : k.Node → k.Node → Ordering}
    (h : ∀ trail a e, ((check a e).run trail).passes = true ↔ cmp a e = .eq)
    (key : k.Node → String) (actual expected : List k.Node) :
    ((checkOneByOne k ctx check key (some actual) (some expected)).run trail).passes = true ↔
      (actual.map key).Perm (expected.map key) ∧
        ∀ pair ∈ pairsByKey key actual expected, cmp pair.1 pair.2 = .eq := by
  by_cases hperm : (actual.map key).Perm (expected.map key)
  · rw [Report.passes_iff, failure_checkOneByOne_of_perm hperm, List.findSome?_eq_none_iff,
      and_iff_right hperm]
    refine forall₂_congr fun pair _ => ?_
    rw [← h, Report.passes_iff]
  · rw [run_checkOneByOne_of_not_perm hperm]
    simp [Report.passes, hperm]

end Reports

section Groups

variable {key : α → String} {as es : List α}

/-- Groups by key, put one after the other, hold the elements of the list. -/
theorem flatMap_filter_perm {ks : List String} (hn : ks.Nodup) (h : ∀ a ∈ as, key a ∈ ks) :
    (ks.flatMap fun k => as.filter fun a => key a == k).Perm as := by
  induction ks generalizing as with
  | nil =>
    have hnil : as = [] := List.eq_nil_iff_forall_not_mem.mpr fun a ha => by simpa using h a ha
    simp [hnil]
  | cons k ks ih =>
    obtain ⟨hk, hn⟩ := List.nodup_cons.mp hn
    have hothers : (ks.flatMap fun k' => as.filter fun a => key a == k') =
        ks.flatMap fun k' => (as.filter fun a => !key a == k).filter fun a => key a == k' := by
      refine List.flatMap_congr fun k' hk' => ?_
      rw [List.filter_filter]
      refine List.filter_congr fun a _ => ?_
      by_cases hka : key a = k'
      · have hne : k' ≠ k := fun heq => hk (heq ▸ hk')
        simp [hka, hne]
      · simp [hka]
    have hrest : ∀ a ∈ as.filter (fun a => !key a == k), key a ∈ ks := by
      intro a ha
      obtain ⟨has, hne⟩ := List.mem_filter.mp ha
      exact (List.mem_cons.mp (h a has)).resolve_left (by simpa using hne)
    rw [List.flatMap_cons, hothers]
    exact ((ih hn hrest).append_left _).trans (List.filter_append_perm (fun a => key a == k) as)

theorem length_filter_key (k : String) :
    (as.filter fun a => key a == k).length = (as.map key).count k := by
  rw [List.count, List.countP_map, List.countP_eq_length_filter]
  rfl

/-- Lists with the same keys, however often these are repeated, are paired up completely. -/
theorem pairUp_of_pairsByKey {r : α → α → Prop} (hp : (as.map key).Perm (es.map key))
    (h : ∀ pair ∈ pairsByKey key as es, r pair.1 pair.2) : PairUp r as es := by
  have hlen (k : String) : (as.filter fun a => key a == k).length =
      (es.filter fun e => key e == k).length := by
    rw [length_filter_key, length_filter_key, hp.count_eq]
  have hfst : (pairsByKey key as es).map Prod.fst =
      (as.map key).eraseDups.flatMap fun k => as.filter fun a => key a == k := by
    rw [pairsByKey, List.map_flatMap]
    exact List.flatMap_congr fun k _ => List.map_fst_zip (hlen k).le
  have hsnd : (pairsByKey key as es).map Prod.snd =
      (as.map key).eraseDups.flatMap fun k => es.filter fun e => key e == k := by
    rw [pairsByKey, List.map_flatMap]
    exact List.flatMap_congr fun k _ => List.map_snd_zip (hlen k).ge
  have hn := nodup_eraseDups (as.map key)
  have has : ((pairsByKey key as es).map Prod.fst).Perm as := by
    rw [hfst]
    refine flatMap_filter_perm hn fun a ha => ?_
    exact List.mem_eraseDups.mpr (List.mem_map_of_mem ha)
  have hes : ((pairsByKey key as es).map Prod.snd).Perm es := by
    rw [hsnd]
    refine flatMap_filter_perm hn fun e he => ?_
    exact List.mem_eraseDups.mpr (hp.mem_iff.mpr (List.mem_map_of_mem he))
  refine pairUp_of_perm_left has.symm ⟨_, ?_, hes⟩
  rw [List.forall₂_map_left_iff, List.forall₂_map_right_iff]
  exact List.forall₂_same.mpr h

end Groups

section Related

variable {r : α → α → Prop} {key : α → String} {as as' es es' : List α}

theorem forall₂_zip (ha : List.Forall₂ r as as') (he : List.Forall₂ r es es') :
    List.Forall₂ (fun p q => r p.1 q.1 ∧ r p.2 q.2) (as.zip es) (as'.zip es') := by
  induction ha generalizing es es' with
  | nil => exact .nil
  | cons h ha ih =>
    cases he with
    | nil => exact .nil
    | cons h' he => exact .cons ⟨h, h'⟩ (ih he)

/-- Elements that are replaced under their old keys are paired as those were. -/
theorem forall₂_pairsByKey (hkey : ∀ a a', r a a' → key a = key a')
    (ha : List.Forall₂ r as as') (he : List.Forall₂ r es es') :
    List.Forall₂ (fun p q => r p.1 q.1 ∧ r p.2 q.2) (pairsByKey key as es)
      (pairsByKey key as' es') := by
  have hgroup {cs cs' : List α} (h : List.Forall₂ r cs cs') (k : String) :
      List.Forall₂ r (cs.filter fun c => key c == k) (cs'.filter fun c => key c == k) :=
    List.rel_filter (fun c c' hc => by simp [hkey c c' hc]) h
  have hkeys : List.Forall₂ (· = ·) (as'.map key).eraseDups (as'.map key).eraseDups :=
    List.forall₂_same.mpr fun k _ => rfl
  rw [pairsByKey, pairsByKey, map_eq_map_iff_forall₂.mpr (ha.imp hkey)]
  refine List.rel_flatMap hkeys fun k k' hk => ?_
  rw [hk]
  exact forall₂_zip (hgroup ha k') (hgroup he k')

theorem forall_pairsByKey_iff {p : α → α → Prop} (hkey : ∀ a a', r a a' → key a = key a')
    (hp : ∀ a a' e e', r a a' → r e e' → (p a' e' ↔ p a e)) (ha : List.Forall₂ r as as')
    (he : List.Forall₂ r es es') :
    (∀ pair ∈ pairsByKey key as' es', p pair.1 pair.2) ↔
      ∀ pair ∈ pairsByKey key as es, p pair.1 pair.2 := by
  have hpairs := forall₂_pairsByKey hkey ha he
  constructor
  · intro h pair hpair
    obtain ⟨pair', hpair', hfst, hsnd⟩ := exists_mem_of_forall₂ hpairs hpair
    exact (hp _ _ _ _ hfst hsnd).mp (h pair' hpair')
  · intro h pair' hpair'
    obtain ⟨pair, hpair, hfst, hsnd⟩ := exists_mem_of_forall₂ hpairs.flip hpair'
    exact (hp _ _ _ _ hfst hsnd).mpr (h pair hpair)

end Related

section Distinct

variable {key : α → String} {as es : List α}

theorem mem_pairsByKey {pair : α × α} (h : pair ∈ pairsByKey key as es) :
    pair.1 ∈ as ∧ pair.2 ∈ es ∧ key pair.1 = key pair.2 := by
  obtain ⟨k, -, hpair⟩ := List.mem_flatMap.mp h
  obtain ⟨ha, he⟩ := List.of_mem_zip hpair
  simp only [List.mem_filter, beq_iff_eq] at ha he
  exact ⟨ha.1, he.1, ha.2.trans he.2.symm⟩

theorem eq_of_mem_pairsByKey_self {pair : α × α} (h : pair ∈ pairsByKey key as as) :
    pair.1 = pair.2 := by
  obtain ⟨k, -, hpair⟩ := List.mem_flatMap.mp h
  have hself : List.Forall₂ (· = ·) (as.filter fun a => key a == k)
      (as.filter fun a => key a == k) := List.forall₂_same.mpr fun a _ => rfl
  exact (List.forall₂_iff_zip.mp hself).2 hpair

theorem filter_key {a : α} (hn : (as.map key).Nodup) (ha : a ∈ as) :
    as.filter (fun b => key b == key a) = [a] := by
  have hmem : a ∈ as.filter fun b => key b == key a := List.mem_filter.mpr ⟨ha, by simp⟩
  have hlen : (as.filter fun b => key b == key a).length = 1 := by
    have hcount := List.count_eq_one_of_mem hn (List.mem_map_of_mem ha)
    rwa [length_filter_key]
  obtain ⟨b, hb⟩ := List.length_eq_one_iff.mp hlen
  rw [hb, List.mem_singleton] at hmem
  rw [hb, hmem]

/-- Where no key is repeated, the pairs are all elements with the same key. -/
theorem mem_pairsByKey_of_nodup {a e : α} (ha : (as.map key).Nodup) (he : (es.map key).Nodup)
    (has : a ∈ as) (hes : e ∈ es) (hk : key a = key e) : (a, e) ∈ pairsByKey key as es := by
  refine List.mem_flatMap.mpr ⟨key a, by simpa using ⟨a, has, rfl⟩, ?_⟩
  rw [filter_key ha has, hk, filter_key he hes]
  simp

end Distinct

section Matched

variable {r : α → α → Prop} {key : α → String} {as bs es : List α}

/-- For every key, the elements that have it are related in the order in which they appear. -/
def MatchByKey (key : α → String) (r : α → α → Prop) (as es : List α) : Prop :=
  ∀ k, List.Forall₂ r (as.filter fun a => key a == k) (es.filter fun e => key e == k)

/-- Lists match by key exactly if they have the same keys and the elements of each pair are
related. -/
theorem matchByKey_iff : MatchByKey key r as es ↔
    (as.map key).Perm (es.map key) ∧ ∀ pair ∈ pairsByKey key as es, r pair.1 pair.2 := by
  constructor
  · intro h
    refine ⟨List.perm_iff_count.mpr fun k => ?_, fun pair hpair => ?_⟩
    · rw [← length_filter_key, ← length_filter_key, (h k).length_eq]
    · obtain ⟨k, -, hpair⟩ := List.mem_flatMap.mp hpair
      exact (List.forall₂_iff_zip.mp (h k)).2 hpair
  · rintro ⟨hperm, hpairs⟩ k
    refine List.forall₂_iff_zip.mpr ⟨?_, fun {a e} hae => hpairs (a, e) ?_⟩
    · rw [length_filter_key, length_filter_key, hperm.count_eq]
    · obtain ⟨ha, hk⟩ := List.mem_filter.mp (List.of_mem_zip hae).1
      have hmem : k ∈ (as.map key).eraseDups := by
        rw [← beq_iff_eq.mp hk, List.mem_eraseDups]
        exact List.mem_map_of_mem ha
      exact List.mem_flatMap.mpr ⟨k, hmem, hae⟩

theorem matchByKey_of_forall₂ (h : List.Forall₂ (fun a e => key a = key e ∧ r a e) as es) :
    MatchByKey key r as es := by
  intro k
  exact (List.rel_filter (fun a e hae => by simp [hae.1]) h).imp fun a e hae => hae.2

/-- Where no key is repeated, the order of the list does not show in the elements with a key. -/
theorem filter_key_of_perm (hn : (as.map key).Nodup) (h : as.Perm bs) (k : String) :
    as.filter (fun a => key a == k) = bs.filter fun b => key b == k := by
  have hperm := h.filter fun a => key a == k
  by_cases hk : ∃ a ∈ as, key a = k
  · obtain ⟨a, ha, rfl⟩ := hk
    rw [filter_key hn ha] at hperm ⊢
    exact (List.perm_singleton.mp hperm.symm).symm
  · have hnil : as.filter (fun a => key a == k) = [] :=
      List.filter_eq_nil_iff.mpr fun a ha hak => hk ⟨a, ha, beq_iff_eq.mp hak⟩
    rw [hnil] at hperm ⊢
    exact hperm.nil_eq

/-- Elements with keys of their own that pair up under the same keys match by key. -/
theorem matchByKey_of_pairUp (hn : (es.map key).Nodup)
    (h : PairUp (fun a e => key a = key e ∧ r a e) as es) : MatchByKey key r as es := by
  obtain ⟨es', hr, hes⟩ := h
  have hn' : (es'.map key).Nodup := (hes.map key).nodup_iff.mpr hn
  intro k
  rw [← filter_key_of_perm hn' hes]
  exact matchByKey_of_forall₂ hr k

theorem pairUp_of_matchByKey (h : MatchByKey key r as es) : PairUp r as es := by
  obtain ⟨hperm, hpairs⟩ := matchByKey_iff.mp h
  exact pairUp_of_pairsByKey hperm hpairs

/-- Matching by key is as good a relation on lists as the one on elements is. -/
theorem equivalence_matchByKey (hr : Equivalence r) : Equivalence (MatchByKey key r) where
  refl _ _ := List.forall₂_same.mpr fun a _ => hr.refl a
  symm h k := (h k).flip.imp fun _ _ => hr.symm
  trans h h' k := by
    refine forall₂_trans ?_ (h k) (h' k)
    exact hr.trans

end Matched

/-- The comparator looks first at what the second one looks at, and that determines the key. -/
structure DecidedByKey (cmp keyCmp : α → α → Ordering) (key : α → String) : Prop where
  trans : TransCmp keyCmp
  self : ∀ a, cmp a a = .eq
  decided : ∀ a b, keyCmp a b ≠ .eq → cmp a b = keyCmp a b
  key_eq : ∀ a b, keyCmp a b = .eq → key a = key b

namespace DecidedByKey

variable {cmp keyCmp : α → α → Ordering} {key : α → String} {as es : List α}

theorem keyCmp_eq (h : DecidedByKey cmp keyCmp key) {a b : α} (hab : cmp a b = .eq) :
    keyCmp a b = .eq := by
  by_contra hne
  exact hne ((h.decided a b hne).symm.trans hab)

/-- Elements with keys of their own are sorted by what tells them apart. -/
theorem sortBy_eq (h : DecidedByKey cmp keyCmp key) (hn : (as.map key).Nodup) :
    sortBy cmp as = sortBy keyCmp as := by
  have := h.trans
  refine sortBy_congr fun a ha b hb => ?_
  by_cases hab : keyCmp a b = .eq
  · have heq : a = b := List.inj_on_of_nodup_map hn ha hb (h.key_eq a b hab)
    rw [heq, h.self]
    exact ReflCmp.compare_self.symm
  · exact h.decided a b hab

theorem perm_of_compareUnordered (h : DecidedByKey cmp keyCmp key)
    (heq : compareUnordered cmp as es = .eq) : (as.map key).Perm (es.map key) := by
  rw [compareUnordered_eq_compareLists, compareLists_eq_eq] at heq
  have hkeys : (sortBy cmp as).map key = (sortBy cmp es).map key := by
    rw [← List.forall₂_eq_eq_eq, List.forall₂_map_left_iff, List.forall₂_map_right_iff]
    exact heq.imp fun a e hae => h.key_eq a e (h.keyCmp_eq hae)
  exact ((sortBy_perm cmp as).map key).symm.trans
    (hkeys ▸ (sortBy_perm cmp es).map key)

/-- Lists without repeated keys are equal out of order exactly if they are one by one. -/
theorem compareUnordered_eq_eq_iff (h : DecidedByKey cmp keyCmp key)
    (hn : (as.map key).Perm (es.map key) → (as.map key).Nodup) :
    compareUnordered cmp as es = .eq ↔ (as.map key).Perm (es.map key) ∧
      ∀ pair ∈ pairsByKey key as es, cmp pair.1 pair.2 = .eq := by
  constructor
  · intro heq
    have hperm := h.perm_of_compareUnordered heq
    have hes : (es.map key).Nodup := hperm.nodup_iff.mp (hn hperm)
    refine ⟨hperm, fun pair hpair => ?_⟩
    obtain ⟨ha, he, hk⟩ := mem_pairsByKey hpair
    rw [compareUnordered_eq_compareLists, compareLists_eq_eq] at heq
    obtain ⟨e, hes', hae⟩ := exists_mem_of_forall₂ heq ((sortBy_perm cmp as).mem_iff.mpr ha)
    have hke : key e = key pair.2 := (h.key_eq _ _ (h.keyCmp_eq hae)).symm.trans hk
    rwa [List.inj_on_of_nodup_map hes ((sortBy_perm cmp es).mem_iff.mp hes') he hke] at hae
  · rintro ⟨hperm, hpairs⟩
    have := h.trans
    have has : (as.map key).Nodup := hn hperm
    have hes : (es.map key).Nodup := hperm.nodup_iff.mp has
    have hcmp (a : α) (ha : a ∈ as) (e : α) (he : e ∈ es) (hk : key a = key e) : cmp a e = .eq :=
      hpairs (a, e) (mem_pairsByKey_of_nodup has hes ha he hk)
    have hpair : PairUp (fun a e => keyCmp a e = .eq) as es :=
      pairUp_of_pairsByKey hperm fun pair hp => h.keyCmp_eq (hpairs pair hp)
    have hsorted := compareUnordered_eq_eq.mpr hpair
    rw [compareUnordered_eq_compareLists, compareLists_eq_eq] at hsorted
    rw [compareUnordered_eq_compareLists, h.sortBy_eq has, h.sortBy_eq hes, compareLists_eq_eq]
    exact forall₂_imp_of_mem (fun a ha e he hae =>
      hcmp a ((sortBy_perm keyCmp as).mem_iff.mp ha) e
        ((sortBy_perm keyCmp es).mem_iff.mp he) (h.key_eq a e hae)) hsorted

end DecidedByKey

section Repeated

variable {key : α → String} {make : Bool → String → α}

/-- The first element with a key is the first in the list of those that have it. -/
theorem filter_key_append (hkey : ∀ b k, key (make b k) = k) {k : String} {ks : List String}
    (hk : k ∉ ks) (b : Bool) (as : List α) :
    (ks.map (make false) ++ make b k :: as).filter (fun a => key a == k) =
      make b k :: as.filter fun a => key a == k := by
  have hnone : (ks.map (make false)).filter (fun a => key a == k) = [] := by
    rw [List.filter_eq_nil_iff]
    intro a ha
    obtain ⟨k', hk', rfl⟩ := List.mem_map.mp ha
    rw [hkey, beq_iff_eq]
    rintro rfl
    exact hk hk'
  rw [List.filter_append, hnone, List.nil_append, List.filter_cons_of_pos (by simp [hkey])]

/-- Where keys are repeated, elements that differ can be paired although both lists hold the same
elements. -/
theorem exists_perm_with_unequal_pair (hkey : ∀ b k, key (make b k) = k) {ks ks' : List String}
    (hp : ks.Perm ks') (hn : ¬ ks.Nodup) :
    ∃ as es : List α, as.map key = ks ∧ es.map key = ks' ∧ as.Perm es ∧
      (∀ a ∈ as, ∃ b k, a = make b k) ∧
      ∃ k, (make true k, make false k) ∈ pairsByKey key as es := by
  obtain ⟨k, hdup⟩ := List.exists_duplicate_iff_not_nodup.mpr hn
  have hcount : 2 ≤ ks'.count k := hp.count_eq k ▸ List.duplicate_iff_two_le_count.mp hdup
  obtain ⟨p, s, rfl, hpk⟩ := List.eq_append_cons_of_mem hdup.mem
  obtain ⟨q, r, rfl, hqk⟩ := List.eq_append_cons_of_mem (hp.mem_iff.mp hdup.mem)
  have hr : k ∈ r := by
    rw [List.count_append, List.count_eq_zero_of_not_mem hqk, List.count_cons_self] at hcount
    exact List.count_pos_iff.mp (by omega)
  obtain ⟨r₁, r₂, rfl⟩ := List.append_of_mem hr
  have hrest : (p ++ s).Perm (q ++ k :: r₁ ++ r₂) := by
    have hmid := @List.perm_middle _ k (q ++ k :: r₁) r₂
    rw [List.append_assoc, List.cons_append] at hmid
    exact (List.perm_cons k).mp (List.perm_middle.symm.trans (hp.trans hmid))
  -- The element that stands out is the first one with its key in one list but not in the other.
  refine ⟨p.map (make false) ++ make true k :: s.map (make false),
    q.map (make false) ++ make false k ::
      (r₁.map (make false) ++ make true k :: r₂.map (make false)), ?_, ?_, ?_, ?_, k, ?_⟩
  · simp [Function.comp_def, hkey]
  · simp [Function.comp_def, hkey]
  · have hmid := @List.perm_middle _ (make true k) ((q ++ k :: r₁).map (make false))
      (r₂.map (make false))
    rw [← List.map_append] at hmid
    have hcons : (make true k :: (p.map (make false) ++ s.map (make false))).Perm
        (make true k :: (q ++ k :: r₁ ++ r₂).map (make false)) := by
      rw [← List.map_append]
      exact (hrest.map (make false)).cons (make true k)
    simpa using List.perm_middle.trans (hcons.trans hmid.symm)
  · intro a ha
    simp only [List.mem_append, List.mem_cons, List.mem_map] at ha
    rcases ha with ⟨k', -, rfl⟩ | rfl | ⟨k', -, rfl⟩
    · exact ⟨false, k', rfl⟩
    · exact ⟨true, k, rfl⟩
    · exact ⟨false, k', rfl⟩
  · refine List.mem_flatMap.mpr ⟨k, by simp [hkey], ?_⟩
    rw [filter_key_append hkey hpk, filter_key_append hkey hqk, List.zip_cons_cons]
    exact List.mem_cons_self

end Repeated

end ClassMatch
