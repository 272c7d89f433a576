import ClassMatch.Proofs.Check.Agreement
import ClassMatch.Proofs.Check.OneByOne
import ClassMatch.Proofs.Label.Resolution

/-!
The check and the order of classes. They agree unless members that the check pairs by key have keys
in common: the check pairs these in the order in which they appear, and the order sorts them first.
-/
namespace ClassMatch

open Std

variable {trail : Trail} {ctx : Context}

/-- Fields are ordered by name before anything else. -/
theorem Field.decidedByKey (hn : ctx.has .ignoreName = false) :
    DecidedByKey (Field.compare ctx) (fun a b => Ord.compare a.name b.name) Field.name where
  trans := transCmp_on Field.name Ord.compare
  self _ := ReflCmp.compare_self
  decided a b hne := by
    unfold Field.compare Context.unless
    rw [hn]
    cases h : Ord.compare a.name b.name with
    | eq => exact absurd h hne
    | lt => rfl
    | gt => rfl
  key_eq _ _ h := LawfulEqCmp.eq_of_compare h

namespace Method

@[simp] theorem view_name (m : Method) : (ctx.view m).name = m.name := by
  unfold Context.view
  split <;> rfl

@[simp] theorem view_descriptor (m : Method) : (ctx.view m).descriptor = m.descriptor := by
  unfold Context.view
  split <;> rfl

/-- Methods are ordered by name and descriptor before anything else. -/
theorem decidedByKey (hn : ctx.has .ignoreName = false) (hd : ctx.has .ignoreDescriptor = false) :
    DecidedByKey (Method.compare ctx)
      (fun a b => (Ord.compare a.name b.name).then (Ord.compare a.descriptor b.descriptor))
      Method.declaration where
  trans := transCmp_then (transCmp_on Method.name Ord.compare)
    (transCmp_on Method.descriptor Ord.compare)
  self := compare_self ctx
  decided a b hne := by
    unfold Method.compare compareViews compareHeaders Context.unless
    rw [hn, hd, view_name, view_name, view_descriptor, view_descriptor]
    cases h : Ord.compare a.name b.name with
    | lt => rfl
    | gt => rfl
    | eq =>
      cases h' : Ord.compare a.descriptor b.descriptor with
      | lt => rfl
      | gt => rfl
      | eq => simp [h, h'] at hne
  key_eq a b h := by
    simp only [Ordering.then_eq_eq, LawfulEqCmp.compare_eq_iff_eq] at h
    rw [declaration, declaration, h.1, h.2]

end Method

/-- The check looks at fields, and it pairs them by name. -/
def Context.PairsFields (ctx : Context) : Prop :=
  ctx.has .ignoreFields = false ∧ ctx.has .ignoreName = false

/-- The check looks at methods, and it pairs them by declaration. -/
def Context.PairsMethods (ctx : Context) : Prop :=
  ctx.has .ignoreMethods = false ∧ ctx.mode = .oneByOne ∧ ctx.has .ignoreName = false ∧
    ctx.has .ignoreDescriptor = false

namespace ClassFile

variable {a b : ClassFile}

def fieldNames (c : ClassFile) : List String := c.fields.map Field.name

theorem passes_checkHeaders (trail : Trail) :
    ((checkHeaders ctx a b).run trail).passes = true ∧
      (ctx.has .ignoreFields = true ∨
        compareUnordered (Field.compare ctx) a.fields b.fields = .eq) ↔
      compareHeaders ctx a b = .eq := by
  simp [checkHeaders, compareHeaders, Check.passes_all, Entity.passes_check, and_assoc]

/-- Fields with the same name are equal in pairs. -/
def PairedFields (ctx : Context) (a b : ClassFile) : Prop :=
  ∀ pair ∈ pairsByKey Field.name a.fields b.fields, pair.1.compare ctx pair.2 = .eq

/-- Methods with the same declaration are equal in pairs. -/
def PairedMethods (ctx : Context) (a b : ClassFile) : Prop :=
  ∀ pair ∈ pairsByKey Method.declaration a.methods b.methods, pair.1.compare ctx pair.2 = .eq

theorem passes_checkFields_of_pairs (h : ctx.PairsFields) :
    ((checkFields ctx a b).run trail).passes = true ↔
      a.fieldNames.Perm b.fieldNames ∧ a.PairedFields ctx b := by
  rw [checkFields, h.2, if_neg (by simp), passes_checkOneByOne (fun _ _ _ => Field.passes_check)]
  rfl

theorem passes_checkMethods_of_pairs (h : ctx.PairsMethods) :
    ((checkMethods ctx a b).run trail).passes = true ↔
      a.declarations.Perm b.declarations ∧ a.PairedMethods ctx b := by
  obtain ⟨-, hm, hn, hd⟩ := h
  simp only [checkMethods, hm, hn, hd, Check.passes_all, List.all_cons, List.all_nil,
    Check.passes_log, Bool.and_true, Bool.true_and, reduceCtorEq, if_false, Bool.not_false,
    and_self, if_true]
  exact passes_checkOneByOne (fun _ _ _ => Method.passes_check) _ _ _

theorem passes_checkFields_of_ignored (hn : ctx.has .ignoreName = true) :
    ((checkFields ctx a b).run trail).passes = true ↔
      compareUnordered (Field.compare ctx) a.fields b.fields = .eq := by
  simp [checkFields, hn]

theorem passes_checkMethods_of_declarations (hm : ctx.mode = .declarationsOnly) :
    ((checkMethods ctx a b).run trail).passes = true ↔ a.declarations.Perm b.declarations := by
  simp only [checkMethods, hm, Check.passes_all, List.all_cons, List.all_nil, Check.passes_log,
    Bool.and_true, Bool.true_and, if_true, passes_checkUnordered, compareOptional_some,
    Kind.compare_text, compareUnordered_eq_eq, LawfulEqCmp.compare_eq_iff_eq, pairUp_eq_iff]

theorem passes_checkMethods_of_unpaired (hi : ctx.has .ignoreMethods = false)
    (hm : ctx.mode ≠ .declarationsOnly) (hp : ¬ ctx.PairsMethods) :
    ((checkMethods ctx a b).run trail).passes = true ↔
      compareUnordered (Method.compare ctx) a.methods b.methods = .eq := by
  have hpaired : ¬ (ctx.mode = .oneByOne ∧ !ctx.has .ignoreName ∧ !ctx.has .ignoreDescriptor) := by
    rintro ⟨hmode, hn, hd⟩
    exact hp ⟨hi, hmode, by simpa using hn, by simpa using hd⟩
  rw [checkMethods, if_neg hm, if_neg hpaired]
  simp [Check.passes_all]

theorem compareMethods_of_declarations (hm : ctx.mode = .declarationsOnly) :
    compareMethods ctx a b = .eq ↔ a.declarations.Perm b.declarations := by
  simp only [compareMethods, hm, compareUnordered_eq_eq, LawfulEqCmp.compare_eq_iff_eq,
    pairUp_eq_iff]

theorem compareMethods_of_whole (hm : ctx.mode ≠ .declarationsOnly) :
    compareMethods ctx a b = compareUnordered (Method.compare ctx) a.methods b.methods := by
  unfold compareMethods
  split
  · next h => exact absurd h hm
  · rfl
  · rfl

/-- Fields that count are checked as they are compared, if they are where they are paired. -/
theorem passes_checkFields (h : ctx.PairsFields → (a.fieldNames.Perm b.fieldNames ∧
      a.PairedFields ctx b ↔ compareUnordered (Field.compare ctx) a.fields b.fields = .eq)) :
    ctx.has .ignoreFields = true ∨ ((checkFields ctx a b).run trail).passes = true ↔
      ctx.has .ignoreFields = true ∨
        compareUnordered (Field.compare ctx) a.fields b.fields = .eq := by
  cases hi : ctx.has .ignoreFields with
  | true => simp
  | false =>
    cases hn : ctx.has .ignoreName with
    | true => rw [passes_checkFields_of_ignored hn]
    | false => rw [passes_checkFields_of_pairs ⟨hi, hn⟩, h ⟨hi, hn⟩]

theorem passes_checkMethods (h : ctx.PairsMethods → (a.declarations.Perm b.declarations ∧
      a.PairedMethods ctx b ↔ compareUnordered (Method.compare ctx) a.methods b.methods = .eq)) :
    ctx.has .ignoreMethods = true ∨ ((checkMethods ctx a b).run trail).passes = true ↔
      ctx.has .ignoreMethods = true ∨ compareMethods ctx a b = .eq := by
  cases hi : ctx.has .ignoreMethods with
  | true => simp
  | false =>
    by_cases hm : ctx.mode = .declarationsOnly
    · rw [passes_checkMethods_of_declarations hm, compareMethods_of_declarations hm]
    by_cases hp : ctx.PairsMethods
    · rw [passes_checkMethods_of_pairs hp, h hp, compareMethods_of_whole hm]
    · rw [passes_checkMethods_of_unpaired hi hm hp, compareMethods_of_whole hm]

theorem passes_check_iff_parts : ((a.check ctx b).run trail).passes = true ↔
    ((checkHeaders ctx a b).run trail).passes = true ∧
    (ctx.has .ignoreFields = true ∨
      ((checkFields ctx a b).run (trail.push (Trail.fieldCrumb "fields"))).passes = true) ∧
    (ctx.has .ignoreMethods = true ∨
      ((checkMethods ctx a b).run (trail.push (Trail.fieldCrumb "methods"))).passes = true) := by
  simp [check, Check.passes_all]

/-- A class passes its check exactly if it is equal, if that is so of members that are paired. -/
theorem passes_check
    (hf : ctx.PairsFields → (a.fieldNames.Perm b.fieldNames ∧ a.PairedFields ctx b ↔
      compareUnordered (Field.compare ctx) a.fields b.fields = .eq))
    (hm : ctx.PairsMethods → (a.declarations.Perm b.declarations ∧ a.PairedMethods ctx b ↔
      compareUnordered (Method.compare ctx) a.methods b.methods = .eq)) :
    ((a.check ctx b).run trail).passes = true ↔ a.compare ctx b = .eq := by
  rw [passes_check_iff_parts, passes_checkFields hf, passes_checkMethods hm, compare,
    Ordering.then_eq_eq, unless_eq_eq, ← passes_checkHeaders trail, and_assoc]

theorem passes_check_of_nodup
    (hf : ctx.PairsFields → a.fieldNames.Perm b.fieldNames → a.fieldNames.Nodup)
    (hm : ctx.PairsMethods → a.declarations.Perm b.declarations → a.declarations.Nodup) :
    ((a.check ctx b).run trail).passes = true ↔ a.compare ctx b = .eq :=
  passes_check
    (fun hp => ((Field.decidedByKey hp.2).compareUnordered_eq_eq_iff (hf hp)).symm)
    fun hp => ((Method.decidedByKey hp.2.2.1 hp.2.2.2).compareUnordered_eq_eq_iff (hm hp)).symm

theorem pairedFields_of_passes (hp : ctx.PairsFields)
    (h : ((a.check ctx b).run trail).passes = true) : a.PairedFields ctx b := by
  have hfields := (passes_check_iff_parts.mp h).2.1.resolve_left (by simp [hp.1])
  exact ((passes_checkFields_of_pairs hp).mp hfields).2

theorem pairedMethods_of_passes (hp : ctx.PairsMethods)
    (h : ((a.check ctx b).run trail).passes = true) : a.PairedMethods ctx b := by
  have hmethods := (passes_check_iff_parts.mp h).2.2.resolve_left (by simp [hp.1])
  exact ((passes_checkMethods_of_pairs hp).mp hmethods).2

/-- Of two equal classes, one passes its check against the other exactly if paired members are
equal. -/
theorem passes_check_of_equal (h : a.compare ctx b = .eq) :
    ((a.check ctx b).run trail).passes = true ↔
      (ctx.PairsFields → a.PairedFields ctx b) ∧ (ctx.PairsMethods → a.PairedMethods ctx b) := by
  constructor
  · intro hpass
    exact ⟨fun hp => pairedFields_of_passes hp hpass, fun hp => pairedMethods_of_passes hp hpass⟩
  · rintro ⟨hf, hm⟩
    have hparts := h
    rw [compare, Ordering.then_eq_eq, unless_eq_eq, ← passes_checkHeaders trail] at hparts
    obtain ⟨⟨-, hfields⟩, hmethods⟩ := hparts
    refine (passes_check (fun hp => ?_) fun hp => ?_).mpr h
    · have heq := hfields.resolve_left (by simp [hp.1])
      exact iff_of_true ⟨(Field.decidedByKey hp.2).perm_of_compareUnordered heq, hf hp⟩ heq
    · have heq := hmethods.resolve_left (by simp [hp.1])
      rw [compareMethods_of_whole (by simp [hp.2.1])] at heq
      exact iff_of_true
        ⟨(Method.decidedByKey hp.2.2.1 hp.2.2.2).perm_of_compareUnordered heq, hm hp⟩ heq

theorem compare_self (ctx : Context) (c : ClassFile) : c.compare ctx c = .eq := by
  have hmethods : compareMethods ctx c c = .eq := by
    by_cases hm : ctx.mode = .declarationsOnly
    · rw [compareMethods_of_declarations hm]
    · rw [compareMethods_of_whole hm, compareUnordered_eq_compareLists, compareLists_eq_eq]
      exact List.forall₂_same.mpr fun m _ => Method.compare_self ctx m
  have hheaders : compareHeaders ctx c c = .eq := ReflCmp.compare_self
  rw [compare, hheaders, hmethods, Ordering.then_eq_eq, unless_eq_eq]
  exact ⟨rfl, .inr rfl⟩

/-- Every class passes against itself, whatever it holds and however its methods are compared. -/
theorem passes_check_self (ctx : Context) (trail : Trail) (c : ClassFile) :
    ((c.check ctx c).run trail).passes = true := by
  refine (passes_check_of_equal (compare_self ctx c)).mpr ⟨fun _ pair hp => ?_, fun _ pair hp => ?_⟩
  · rw [eq_of_mem_pairsByKey_self hp]
    exact ReflCmp.compare_self
  · rw [eq_of_mem_pairsByKey_self hp]
    exact Method.compare_self ctx pair.2

/-- A class that passes its check is equal, if labels are resolved in one way throughout. -/
theorem equal_of_passes
    (h : ctx.fixed = true ∨ ctx.LabelConsistent {m | m ∈ a.methods ++ b.methods})
    (hpass : ((a.check ctx b).run trail).passes = true) : a.compare ctx b = .eq := by
  have hparts := passes_check_iff_parts.mp hpass
  refine (passes_check (fun hp => ?_) fun hp => ?_).mp hpass
  · have hfields := hparts.2.1.resolve_left (by simp [hp.1])
    obtain ⟨hperm, hpairs⟩ := (passes_checkFields_of_pairs hp).mp hfields
    exact iff_of_true ⟨hperm, hpairs⟩
      (compareUnordered_eq_eq.mpr (pairUp_of_pairsByKey hperm hpairs))
  · have hmethods := hparts.2.2.resolve_left (by simp [hp.1])
    obtain ⟨hperm, hpairs⟩ := (passes_checkMethods_of_pairs hp).mp hmethods
    exact iff_of_true ⟨hperm, hpairs⟩
      ((Method.compareUnordered_eq_eq h).mpr (pairUp_of_pairsByKey hperm hpairs))

variable {name : String} {fs fs' : List Field} {ms ms' : List Method}

/-- Bare classes are equal if their members are. -/
theorem compare_bare (hf : compareUnordered (Field.compare .plain) fs fs' = .eq)
    (hm : compareUnordered (Method.compare .plain) ms ms' = .eq) :
    (bare name fs ms).compare .plain (bare name fs' ms') = .eq := by
  have hentity : (bare name fs ms).entity.compare .plain (bare name fs' ms').entity = .eq := by
    change (bare name fs ms).entity.compare .plain (bare name fs ms).entity = .eq
    exact ReflCmp.compare_self
  have hmethods : compareMethods .plain (bare name fs ms) (bare name fs' ms') = .eq := hm
  have hfields : compareUnordered (Field.compare .plain) (bare name fs ms).fields
      (bare name fs' ms').fields = .eq := hf
  simp only [compare, compareHeaders, hentity, hmethods, hfields, Ordering.then_eq_eq, unless_eq_eq,
    LawfulEqCmp.compare_eq_iff_eq]
  simp [bare, compareOptional, compareUnordered, sortBy, sortDescending, compareElements]

theorem exists_unequal_fields {names names' : List String} (hp : names.Perm names')
    (hn : ¬ names.Nodup) : ∃ a b : ClassFile, a.fieldNames = names ∧ b.fieldNames = names' ∧
      a.compare .plain b = .eq ∧ ((a.check .plain b).run trail).passes = false := by
  have hkey (c : Bool) (name : String) :
      (Field.bare name (if c then "I" else "J")).name = name := rfl
  obtain ⟨fs, fs', hfs, hfs', hperm, -, name, hpair⟩ := exists_perm_with_unequal_pair hkey hp hn
  have hequal : PairUp (fun f f' => f.compare .plain f' = .eq) fs fs' :=
    pairUp_of_perm (fun _ _ => ReflCmp.compare_self) hperm
  refine ⟨bare "C" fs [], bare "C" fs' [], hfs, hfs',
    compare_bare (compareUnordered_eq_eq.mpr hequal) rfl, ?_⟩
  by_contra hpass
  rw [Bool.not_eq_false] at hpass
  have heq := pairedFields_of_passes ⟨rfl, rfl⟩ hpass _ hpair
  simp [Field.compare, Field.bare, Context.has, Context.plain, OptionSet.contains,
    OptionSet.empty] at heq

theorem exists_unequal_methods {ds ds' : List String} (hp : ds.Perm ds') (hn : ¬ ds.Nodup) :
    ∃ a b : ClassFile, a.declarations = ds ∧ b.declarations = ds' ∧
      a.compare .plain b = .eq ∧ ((a.check .plain b).run trail).passes = false := by
  have hkey (c : Bool) (d : String) :
      Method.declaration { Method.bare d "" [] with maxStack := if c then 1 else 0 } = d := by
    simp [Method.declaration, Method.bare]
  obtain ⟨ms, ms', hms, hms', hperm, hmake, d, hpair⟩ := exists_perm_with_unequal_pair hkey hp hn
  have hconsistent : Context.plain.LabelConsistent {m | m ∈ ms ++ ms'} := by
    intro m hm n _ l hl
    have hms : m ∈ ms := (List.mem_append.mp hm).elim id hperm.mem_iff.mpr
    obtain ⟨c, d, rfl⟩ := hmake m hms
    exact absurd hl List.not_mem_nil
  have hequal : PairUp (fun m n => m.compare .plain n = .eq) ms ms' :=
    pairUp_of_perm (fun m _ => Method.compare_self .plain m) hperm
  refine ⟨bare "C" [] ms, bare "C" [] ms', hms, hms',
    compare_bare rfl ((Method.compareUnordered_eq_eq (.inr hconsistent)).mpr hequal), ?_⟩
  by_contra hpass
  rw [Bool.not_eq_false] at hpass
  have heq := pairedMethods_of_passes ⟨rfl, rfl, rfl, rfl⟩ hpass _ hpair
  simp only [Method.compare, Method.compareViews, Method.compareBodies, Ordering.then_eq_eq] at heq
  have hstack : Ord.compare (1 : UInt16) 0 = .eq := heq.2.1.2.2.2.1
  exact absurd hstack (by decide)

/-- If no key by which members are paired is repeated in both classes, one passes its check against
the other exactly if they are equal. If they are equal, it passes exactly if members that are paired
are, and if labels are resolved in one way throughout, only equal classes pass. Wherever keys are
repeated, there are equal classes with these keys that fail. -/
theorem passes_check_iff_equal_of_distinct_keys (ctx : Context) (trail : Trail) (a b : ClassFile) :
    ((ctx.PairsFields → a.fieldNames.Perm b.fieldNames → a.fieldNames.Nodup) →
      (ctx.PairsMethods → a.declarations.Perm b.declarations → a.declarations.Nodup) →
      (((a.check ctx b).run trail).passes = true ↔ a.compare ctx b = .eq)) ∧
    (a.compare ctx b = .eq → (((a.check ctx b).run trail).passes = true ↔
      (ctx.PairsFields → a.PairedFields ctx b) ∧ (ctx.PairsMethods → a.PairedMethods ctx b))) ∧
    (ctx.fixed = true ∨ ctx.LabelConsistent {m | m ∈ a.methods ++ b.methods} →
      ((a.check ctx b).run trail).passes = true → a.compare ctx b = .eq) ∧
    (a.fieldNames.Perm b.fieldNames → ¬ a.fieldNames.Nodup → ∃ a' b' : ClassFile,
      a'.fieldNames = a.fieldNames ∧ b'.fieldNames = b.fieldNames ∧
        a'.compare .plain b' = .eq ∧ ((a'.check .plain b').run trail).passes = false) ∧
    (a.declarations.Perm b.declarations → ¬ a.declarations.Nodup → ∃ a' b' : ClassFile,
      a'.declarations = a.declarations ∧ b'.declarations = b.declarations ∧
        a'.compare .plain b' = .eq ∧ ((a'.check .plain b').run trail).passes = false) :=
  ⟨passes_check_of_nodup, passes_check_of_equal, equal_of_passes, exists_unequal_fields,
    exists_unequal_methods⟩

/-- Fields with names of their own may trade places. -/
theorem passes_check_of_swapped_fields :
    (((bare "C" [.bare "x" "I", .bare "y" "J"] []).check .plain
      (bare "C" [.bare "y" "J", .bare "x" "I"] [])).run .empty).passes = true :=
  ((passes_check_iff_equal_of_distinct_keys .plain .empty _ _).1 (fun _ _ => by decide)
    fun _ _ => by decide).mpr (by decide)

/-- Two fields of one name that trade places leave the classes equal, but not for the check. -/
theorem passes_check_iff_equal_fails :
    ¬ ∀ (ctx : Context) (trail : Trail) (a b : ClassFile),
      ((a.check ctx b).run trail).passes = true ↔ a.compare ctx b = .eq := by
  intro h
  have hab := h .plain .empty (bare "C" [.bare "x" "I", .bare "x" "J"] [])
    (bare "C" [.bare "x" "J", .bare "x" "I"] [])
  revert hab
  decide

end ClassFile

end ClassMatch
