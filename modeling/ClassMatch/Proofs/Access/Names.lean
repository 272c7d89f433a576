import ClassMatch.Proofs.Access.Flags
import ClassMatch.Proofs.Check.Agreement

/-!
What a check of access masks tells. Names are listed in one order for all kinds of declarations and
none of them twice, so two lists of names are the same exactly if the sets are, and what one has
more than the other tells them apart.
-/
namespace ClassMatch

namespace AccessFlag

/-- The keywords of all flags in the order of listing. -/
def keywords : List String := all.map keyword

theorem nodup_keywords : keywords.Nodup := by decide

/-- Keywords that stand in the order of listing are known by which ones they are. -/
theorem eq_iff_of_sublist_keywords {names others : List String} (hn : names.Sublist keywords)
    (ho : others.Sublist keywords) : names = others ↔ ∀ name, name ∈ names ↔ name ∈ others := by
  rw [← nodup_keywords.perm_iff_eq_of_sublist hn ho,
    List.perm_ext_iff_of_nodup (nodup_keywords.sublist hn) (nodup_keywords.sublist ho)]

end AccessFlag

theorem AccessKind.flags_sublist (kind : AccessKind) : kind.flags.Sublist AccessFlag.all := by
  cases kind <;> decide

namespace Access

variable {actual expected : Access}

theorem names_sublist (access : Access) : access.names.Sublist AccessFlag.keywords :=
  (List.filter_sublist.trans access.kind.flags_sublist).map AccessFlag.keyword

theorem names_eq_iff : actual.names = expected.names ↔
    actual.names.toFinset = expected.names.toFinset := by
  rw [AccessFlag.eq_iff_of_sublist_keywords actual.names_sublist expected.names_sublist,
    Finset.ext_iff]
  simp only [List.mem_toFinset]

/-- The names that one mask has more than another one, in the order of listing. -/
def surplusNames (own others : Access) : List String :=
  AccessFlag.keywords.filter fun name => name ∈ own.names ∧ name ∉ others.names

theorem filter_names_eq_surplusNames (own others : Access) :
    (own.names.filter fun name => !others.names.contains name) = own.surplusNames others := by
  have hmem (name : String) (h : name ∈ own.names) : name ∈ AccessFlag.keywords :=
    own.names_sublist.subset h
  refine (AccessFlag.eq_iff_of_sublist_keywords (List.filter_sublist.trans own.names_sublist)
    List.filter_sublist).mpr fun name => ?_
  simp only [List.mem_filter, List.contains_eq_mem, Bool.not_eq_true', decide_eq_true_eq,
    decide_eq_false_iff_not]
  exact ⟨fun h => ⟨hmem name h.1, h⟩, fun h => h.2⟩

theorem mem_surplusNames {own others : Access} {name : String} :
    name ∈ own.surplusNames others ↔ name ∈ own.names ∧ name ∉ others.names := by
  rw [← filter_names_eq_surplusNames, List.mem_filter]
  simp

theorem surplusNames_eq_nil_iff {own others : Access} :
    own.surplusNames others = [] ↔ own.names.toFinset ⊆ others.names.toFinset := by
  rw [← filter_names_eq_surplusNames, List.filter_eq_nil_iff]
  simp [Finset.subset_iff]

/-- Neither mask has a name more than the other one exactly if they have the same names. -/
theorem surplusNames_eq_nil_and_iff : expected.surplusNames actual = [] ∧
    actual.surplusNames expected = [] ↔ actual.names = expected.names := by
  rw [surplusNames_eq_nil_iff, surplusNames_eq_nil_iff, names_eq_iff, and_comm,
    Finset.Subset.antisymm_iff]

/-- The message about two masks with different names. Of its last two lines each is there only if
there is something to list in it. -/
def differenceText (actual expected : Access) : String :=
  let notFound := expected.surplusNames actual
  let notExpected := actual.surplusNames expected
  "Expecting actual:\n  " ++ shown actual.names ++ "\nto contain exactly in any order:\n  " ++
    shown expected.names ++
    (if notFound = [] then "" else "\nnames not found: " ++ shown notFound) ++
    (if notExpected = [] then "" else "\nnames not expected: " ++ shown notExpected)

theorem check_eq : actual.check expected =
    if actual.names = expected.names then .pass else .fail (differenceText actual expected) := by
  have hmessage : anyOrderMessage (shown actual.names) (shown expected.names) "names"
      (shown (expected.surplusNames actual)) (shown (actual.surplusNames expected))
      (!(expected.surplusNames actual).isEmpty) (!(actual.surplusNames expected).isEmpty) =
        differenceText actual expected := by
    unfold anyOrderMessage differenceText
    cases expected.surplusNames actual <;> cases actual.surplusNames expected <;> rfl
  rw [← hmessage, ← filter_names_eq_surplusNames, ← filter_names_eq_surplusNames]
  rfl

/-- The mask without the bits that mean nothing for its kind. -/
def relevant (access : Access) : Access := ⟨access.mask &&& ~~~access.irrelevantBits, access.kind⟩

theorem names_relevant (access : Access) : access.relevant.names = access.names := by
  refine names_eq_names_iff.mpr ?_
  have hbool : ∀ p q : Bool, (p && !(p && !q) && q) = (p && q) := by decide
  simp only [AccessKind.truncate, irrelevantBits, ← UInt32.toBitVec_inj, UInt32.toBitVec_and,
    UInt32.toBitVec_not]
  refine BitVec.eq_of_getLsbD_eq fun i hi => ?_
  simp only [BitVec.getLsbD_and, BitVec.getLsbD_not, hi, decide_true, Bool.true_and, hbool]

/-- Masks are judged by their names. -/
theorem compare_congr {a b : Access} (ha : a.names = actual.names)
    (hb : b.names = expected.names) : a.compare b = actual.compare expected := by
  rw [Access.compare, ha, hb]
  rfl

theorem check_congr {a b : Access} (ha : a.names = actual.names) (hb : b.names = expected.names) :
    a.check b = actual.check expected := by
  unfold check
  rw [ha, hb]

theorem failure_check (trail : Trail) : ((actual.check expected).run trail).failure =
    if actual.names.toFinset = expected.names.toFinset then none
    else some ⟨trail, differenceText actual expected, none⟩ := by
  simp only [check_eq, names_eq_iff]
  split <;> rfl

theorem passes_check_eq_false {trail : Trail} :
    ((actual.check expected).run trail).passes = false ↔
      actual.names.toFinset ≠ expected.names.toFinset := by
  rw [← Bool.not_eq_true, passes_check, Access.compare, Std.LawfulEqCmp.compare_eq_iff_eq,
    names_eq_iff]

/-- Masks on the same kind of declaration are equal, and pass the check, exactly if they agree on
the bits with a meaning for it; other bits never count. Masks on any kinds fail the check exactly if
they do not have the same names. The message then lists the expected names that are not found, the
actual ones that are not expected, or both, each in the order of listing. -/
theorem check_tells_names_apart :
    (∀ (kind : AccessKind) (a b : UInt32) (trail : Trail),
      (Access.compare ⟨a, kind⟩ ⟨b, kind⟩ = .eq ↔
        a &&& kind.legalMask = b &&& kind.legalMask) ∧
      (((Access.check ⟨a, kind⟩ ⟨b, kind⟩).run trail).passes = true ↔
        a &&& kind.legalMask = b &&& kind.legalMask)) ∧
    (∀ access other : Access,
      access.relevant.compare other = access.compare other ∧
      other.compare access.relevant = other.compare access ∧
      access.relevant.check other = access.check other ∧
      other.check access.relevant = other.check access) ∧
    ∀ (actual expected : Access) (trail : Trail),
      let notFound := expected.surplusNames actual
      let notExpected := actual.surplusNames expected
      let report := (actual.check expected).run trail
      (report.passes = false ↔ actual.names.toFinset ≠ expected.names.toFinset) ∧
      report.failure = (if actual.names.toFinset = expected.names.toFinset then none
        else some ⟨trail, differenceText actual expected, none⟩) ∧
      (∀ name, name ∈ notFound ↔ name ∈ expected.names ∧ name ∉ actual.names) ∧
      (∀ name, name ∈ notExpected ↔ name ∈ actual.names ∧ name ∉ expected.names) ∧
      notFound.Sublist AccessFlag.keywords ∧ notExpected.Sublist AccessFlag.keywords ∧
      (report.passes = false ↔ notFound ≠ [] ∨ notExpected ≠ []) := by
  refine ⟨fun kind a b trail => ⟨compare_eq_eq, passes_check.trans compare_eq_eq⟩,
    fun access other => ?_, fun actual expected trail => ?_⟩
  · have hnames := names_relevant access
    exact ⟨compare_congr hnames rfl, compare_congr rfl hnames, check_congr hnames rfl,
      check_congr rfl hnames⟩
  · intro notFound notExpected report
    have hfails : report.passes = false ↔ actual.names.toFinset ≠ expected.names.toFinset :=
      passes_check_eq_false
    refine ⟨hfails, failure_check trail, fun _ => mem_surplusNames, fun _ => mem_surplusNames,
      List.filter_sublist, List.filter_sublist, ?_⟩
    rw [hfails, Ne, ← names_eq_iff, ← surplusNames_eq_nil_and_iff, not_and_or]

/-- One bit has two names here. -/
example : ((Access.check ⟨0x21, .onClass⟩ ⟨0x21, .onMethod⟩).run .empty).failure.map
      Failure.message =
    some ("Expecting actual:\n  [\"public\", \"super\"]\n" ++
      "to contain exactly in any order:\n  [\"public\", \"synchronized\"]\n" ++
      "names not found: [\"synchronized\"]\nnames not expected: [\"super\"]") := by
  decide +kernel

end Access

end ClassMatch
