import ClassMatch.Proofs.Options.Added

/-!
When classes agree, apart from how the check finds it out: their headers are equal, and their
members match by key or in any order, as the context asks. Whatever total preorder tells methods
apart, this is an equivalence of classes, and so is the check wherever labels are resolved in one
way throughout.
-/
namespace ClassMatch

open Std

variable {ctx : Context} {trail : Trail}

theorem equivalence_of_transCmp {α : Type} (cmp : α → α → Ordering) [TransCmp cmp] :
    Equivalence fun a b => cmp a b = .eq where
  refl _ := ReflCmp.compare_self
  symm := OrientedCmp.eq_symm
  trans := TransCmp.eq_trans

section Members

variable {α : Type} {key : α → String} {paired : Prop} {cmp cmp' : α → α → Ordering}
  {as es : List α}

/-- Members that are paired match by key, and others are equal in any order. -/
def MembersMatch (paired : Prop) (key : α → String) (cmp : α → α → Ordering) (as es : List α) :
    Prop :=
  (paired → MatchByKey key (fun a e => cmp a e = .eq) as es) ∧
    (¬ paired → compareUnordered cmp as es = .eq)

theorem membersMatch_of_paired (h : paired) : MembersMatch paired key cmp as es ↔
    MatchByKey key (fun a e => cmp a e = .eq) as es :=
  ⟨fun hm => hm.1 h, fun hm => ⟨fun _ => hm, fun hn => absurd h hn⟩⟩

theorem membersMatch_of_unpaired (h : ¬ paired) : MembersMatch paired key cmp as es ↔
    compareUnordered cmp as es = .eq :=
  ⟨fun hm => hm.2 h, fun hm => ⟨fun hp => absurd hp h, fun _ => hm⟩⟩

theorem membersMatch_congr (h : ∀ a ∈ as ++ es, ∀ e ∈ as ++ es, cmp a e = cmp' a e) :
    MembersMatch paired key cmp as es ↔ MembersMatch paired key cmp' as es := by
  refine and_congr (imp_congr_right fun _ => forall_congr' fun k => ?_)
    (imp_congr_right fun _ => ?_)
  · refine forall₂_iff_of_mem fun a ha e he => ?_
    rw [h a (List.mem_append_left es (List.mem_of_mem_filter ha)) e
      (List.mem_append_right as (List.mem_of_mem_filter he))]
  · rw [compareUnordered_congr h]

/-- Members with keys of their own match if they pair up under the same keys as equal ones. -/
theorem membersMatch_of_pairUp (hn : (as.map key).Nodup)
    (h : PairUp (fun a e => key a = key e ∧ cmp a e = .eq) as es)
    (hcmp : PairUp (fun a e => cmp a e = .eq) as es → compareUnordered cmp as es = .eq) :
    MembersMatch paired key cmp as es := by
  have hkeys := perm_map_of_pairUp (pairUp_imp (fun _ _ _ _ hae => hae.1) h)
  exact ⟨fun _ => matchByKey_of_pairUp (hkeys.nodup_iff.mp hn) h,
    fun _ => hcmp (pairUp_imp (fun _ _ _ _ hae => hae.2) h)⟩

theorem equivalence_membersMatch (paired : Prop) (key : α → String) (cmp : α → α → Ordering)
    [TransCmp cmp] : Equivalence (MembersMatch paired key cmp) := by
  have hkey : Equivalence (MatchByKey key fun a e => cmp a e = .eq) :=
    equivalence_matchByKey (equivalence_of_transCmp cmp)
  have hany := equivalence_of_transCmp (compareUnordered cmp)
  exact {
    refl as := ⟨fun _ => hkey.refl as, fun _ => hany.refl as⟩
    symm h := ⟨fun hp => hkey.symm (h.1 hp), fun hp => hany.symm (h.2 hp)⟩
    trans h h' :=
      ⟨fun hp => hkey.trans (h.1 hp) (h'.1 hp), fun hp => hany.trans (h.2 hp) (h'.2 hp)⟩ }

end Members

namespace ClassFile

variable {a b : ClassFile} {order order' : Method → Method → Ordering}

/-- What counts in two classes matches, methods being told apart by the given order. -/
structure Agrees (ctx : Context) (order : Method → Method → Ordering) (a b : ClassFile) :
    Prop where
  headers : compareHeaders ctx { a with fields := [] } { b with fields := [] } = .eq
  fields : ctx.has .ignoreFields = false →
    MembersMatch ctx.PairsFields Field.name (Field.compare ctx) a.fields b.fields
  declarations : ctx.has .ignoreMethods = false → ctx.mode = .declarationsOnly →
    a.declarations.Perm b.declarations
  methods : ctx.has .ignoreMethods = false → ctx.mode ≠ .declarationsOnly →
    MembersMatch ctx.PairsMethods Method.declaration order a.methods b.methods

theorem passes_checkFields_iff (hi : ctx.has .ignoreFields = false) :
    ((checkFields ctx a b).run trail).passes = true ↔
      MembersMatch ctx.PairsFields Field.name (Field.compare ctx) a.fields b.fields := by
  by_cases hp : ctx.PairsFields
  · rw [passes_checkFields_of_pairs hp, membersMatch_of_paired hp, matchByKey_iff]
    rfl
  · have hn : ctx.has .ignoreName = true := by
      by_contra hn
      exact hp ⟨hi, Bool.eq_false_iff.mpr hn⟩
    rw [passes_checkFields_of_ignored hn, membersMatch_of_unpaired hp]

theorem passes_checkMethods_iff (hi : ctx.has .ignoreMethods = false)
    (hm : ctx.mode ≠ .declarationsOnly) :
    ((checkMethods ctx a b).run trail).passes = true ↔
      MembersMatch ctx.PairsMethods Method.declaration (Method.compare ctx) a.methods
        b.methods := by
  by_cases hp : ctx.PairsMethods
  · rw [passes_checkMethods_of_pairs hp, membersMatch_of_paired hp, matchByKey_iff]
    rfl
  · rw [passes_checkMethods_of_unpaired hi hm hp, membersMatch_of_unpaired hp]

/-- The check passes exactly if the classes agree. -/
theorem passes_check_iff_agrees :
    ((a.check ctx b).run trail).passes = true ↔ a.Agrees ctx (Method.compare ctx) b := by
  rw [passes_check_iff_parts, passes_checkHeaders_iff]
  constructor
  · rintro ⟨hheaders, hfields, hmethods⟩
    refine ⟨hheaders, fun hi => ?_, fun hi hm => ?_, fun hi hm => ?_⟩
    · exact (passes_checkFields_iff hi).mp (hfields.resolve_left (by simp [hi]))
    · exact (passes_checkMethods_of_declarations hm).mp (hmethods.resolve_left (by simp [hi]))
    · exact (passes_checkMethods_iff hi hm).mp (hmethods.resolve_left (by simp [hi]))
  · rintro ⟨hheaders, hfields, hdeclarations, hmethods⟩
    refine ⟨hheaders, ?_, ?_⟩
    · cases hi : ctx.has .ignoreFields with
      | true => exact .inl rfl
      | false => exact .inr ((passes_checkFields_iff hi).mpr (hfields hi))
    · cases hi : ctx.has .ignoreMethods with
      | true => exact .inl rfl
      | false =>
        by_cases hm : ctx.mode = .declarationsOnly
        · exact .inr ((passes_checkMethods_of_declarations hm).mpr (hdeclarations hi hm))
        · exact .inr ((passes_checkMethods_iff hi hm).mpr (hmethods hi hm))

/-- Orders that are the same on the methods of both classes find out the same about them. -/
theorem agrees_congr
    (h : ∀ m ∈ a.methods ++ b.methods, ∀ n ∈ a.methods ++ b.methods, order m n = order' m n) :
    a.Agrees ctx order b ↔ a.Agrees ctx order' b := by
  constructor
  · intro hab
    exact { hab with methods := fun hi hm => (membersMatch_congr h).mp (hab.methods hi hm) }
  · intro hab
    exact { hab with methods := fun hi hm => (membersMatch_congr h).mpr (hab.methods hi hm) }

theorem equivalence_agrees (ctx : Context) (order : Method → Method → Ordering)
    [TransCmp order] : Equivalence (Agrees ctx order) := by
  have hfields := equivalence_membersMatch ctx.PairsFields Field.name (Field.compare ctx)
  have hmethods := equivalence_membersMatch ctx.PairsMethods Method.declaration order
  exact {
    refl a :=
      { headers := ReflCmp.compare_self
        fields := fun _ => hfields.refl a.fields
        declarations := fun _ _ => .refl a.declarations
        methods := fun _ _ => hmethods.refl a.methods }
    symm h :=
      { headers := OrientedCmp.eq_symm h.headers
        fields := fun hi => hfields.symm (h.fields hi)
        declarations := fun hi hm => (h.declarations hi hm).symm
        methods := fun hi hm => hmethods.symm (h.methods hi hm) }
    trans h h' :=
      { headers := TransCmp.eq_trans h.headers h'.headers
        fields := fun hi => hfields.trans (h.fields hi) (h'.fields hi)
        declarations := fun hi hm => (h.declarations hi hm).trans (h'.declarations hi hm)
        methods := fun hi hm => hmethods.trans (h.methods hi hm) (h'.methods hi hm) } }

/-- In every mode the check is an equivalence of classes in which the labels of all methods are
resolved in one way. Members with the same key may be repeated in them. -/
theorem equivalence_passes_check {classes : Set ClassFile}
    (h : ctx.fixed = true ∨ ctx.LabelConsistent {m | ∃ c ∈ classes, m ∈ c.methods})
    (trail : Trail) :
    Equivalence fun a b : classes => ((a.1.check ctx b.1).run trail).passes = true := by
  obtain ⟨body, hbody⟩ := Method.exists_resolved h
  let order (m n : Method) : Ordering := Method.compareResolved ctx body (ctx.view m) (ctx.view n)
  have : TransCmp order := transCmp_on ctx.view (Method.compareResolved ctx body)
  have hagrees (a b : classes) :
      ((a.1.check ctx b.1).run trail).passes = true ↔ a.1.Agrees ctx order b.1 := by
    have hmem (m : Method) (hm : m ∈ a.1.methods ++ b.1.methods) :
        ∃ c ∈ classes, m ∈ c.methods :=
      (List.mem_append.mp hm).elim (fun hm => ⟨a.1, a.2, hm⟩) fun hm => ⟨b.1, b.2, hm⟩
    rw [passes_check_iff_agrees]
    exact agrees_congr fun m hm n hn => hbody m (hmem m hm) n (hmem n hn)
  have hequivalence := equivalence_agrees ctx order
  exact {
    refl a := (hagrees a a).mpr (hequivalence.refl a.1)
    symm {a b} hab := (hagrees b a).mpr (hequivalence.symm ((hagrees a b).mp hab))
    trans {a b c} hab hbc :=
      (hagrees a c).mpr (hequivalence.trans ((hagrees a b).mp hab) ((hagrees b c).mp hbc)) }

/-- Two classes with fields of one name, methods of one declaration and labels of their own. -/
def repeatingClasses : List ClassFile :=
  [bare "C" [.bare "x" "I", .bare "x" "J"]
      [.bare "m" "()V" [.label ⟨0⟩], .bare "m" "()V" [.label ⟨0⟩, .jump 167 ⟨0⟩]],
    bare "C" [.bare "x" "I", .bare "x" "J"]
      [.bare "m" "()V" [.label ⟨3⟩], .bare "m" "()V" [.label ⟨3⟩, .jump 167 ⟨3⟩]]]

theorem equivalence_passes_check_of_repeated_keys :
    Equivalence fun a b : {c | c ∈ repeatingClasses} =>
      ((a.1.check .plain b.1).run .empty).passes = true := by
  have hmethods : {m | ∃ c ∈ {c | c ∈ repeatingClasses}, m ∈ c.methods} =
      {m | m ∈ repeatingClasses.flatMap ClassFile.methods} := by
    ext m
    simp
  refine equivalence_passes_check (.inr ?_) .empty
  rw [hmethods]
  decide

end ClassFile

end ClassMatch
