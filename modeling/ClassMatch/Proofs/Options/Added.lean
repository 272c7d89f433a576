import ClassMatch.Proofs.Check.Class
import ClassMatch.Proofs.Options.Coarser
import ClassMatch.Proofs.Order.Preorder

/-!
What becomes of a check when an option is added to it. The option is looked at deep inside of nodes,
in the orders that sort them, and even to choose how members are paired, but apart from the one for
line numbers it can only make a check pass that failed before.
-/
namespace ClassMatch

open Std

variable {ctx : Context} {o : CheckOption} {trail : Trail}

/-- A set is known by the options it contains, in whatever order they were put into it. -/
theorem OptionSet.eq_of_contains {options others : OptionSet}
    (h : ∀ option, options.contains option = others.contains option) : options = others := by
  obtain ⟨as, has⟩ := options
  obtain ⟨bs, hbs⟩ := others
  have hne (a b : CheckOption) (hlt : a.order b = .lt) : a ≠ b := by
    rintro rfl
    have hself : a.order a = .eq := ReflCmp.compare_self
    cases hlt.symm.trans hself
  have hmem : ∀ option, option ∈ as ↔ option ∈ bs := by simpa [contains] using h
  have hperm : as.Perm bs :=
    (List.perm_ext_iff_of_nodup (has.imp (hne _ _)) (hbs.imp (hne _ _))).mpr hmem
  obtain rfl : as = bs := by
    refine hperm.eq_of_pairwise (fun a b _ _ hab hba => ?_) has hbs
    exact absurd (TransCmp.lt_trans hab hba) fun hlt => hne a a hlt rfl
  rfl

namespace Context

def adding (ctx : Context) (o : CheckOption) : Context :=
  { ctx with options := ctx.options.insert o }

theorem has_adding (ctx : Context) (o p : CheckOption) :
    (ctx.adding o).has p = (p == o || ctx.has p) :=
  OptionSet.contains_insert ctx.options o p

theorem has_adding_of_has {p : CheckOption} (h : ctx.has p = true) :
    (ctx.adding o).has p = true := by
  simp [has_adding, h]

theorem has_adding_of_ne {p : CheckOption} (h : o ≠ p) : (ctx.adding o).has p = ctx.has p := by
  simp [has_adding, h.symm]

theorem has_eq_false_of_adding {p : CheckOption} (h : (ctx.adding o).has p = false) :
    ctx.has p = false := by
  rw [has_adding, Bool.or_eq_false_iff] at h
  exact h.2

theorem coarsens_adding (ctx : Context) (o : CheckOption) (ls ms : List Label) :
    ctx.Coarsens (ctx.adding o) ls ms :=
  ⟨fun _ => has_adding_of_has, fun _ _ _ _ => id⟩

theorem forInstructions_adding (as bs : List Instruction) :
    (ctx.adding o).forInstructions as bs = (ctx.forInstructions as bs).adding o := by
  obtain ⟨_, _, _, fixed, _, _⟩ := ctx
  cases fixed <;> rfl

theorem view_adding (ho : o ≠ .ignoreLineNumbers) (m : Method) :
    (ctx.adding o).view m = ctx.view m := by
  rw [view, has_adding_of_ne ho, view]

theorem coarsensThroughout_adding (ctx : Context) (ho : o ≠ .ignoreLineNumbers) :
    ctx.CoarsensThroughout (ctx.adding o) where
  labels := ctx.coarsens_adding o
  bodies as bs ls ms := by
    rw [forInstructions_adding]
    exact coarsens_adding _ o ls ms
  view := view_adding ho

theorem labelConsistent_adding (ho : o ≠ .ignoreLineNumbers) {methods : Set Method}
    (h : ctx.LabelConsistent methods) : (ctx.adding o).LabelConsistent methods := by
  intro m hm n hn
  rw [view_adding ho, view_adding ho]
  exact h m hm n hn

end Context

theorem Method.compare_adding (ho : o ≠ .ignoreLineNumbers) {a b : Method}
    (h : a.compare ctx b = .eq) : a.compare (ctx.adding o) b = .eq :=
  compare_mono (ctx.coarsensThroughout_adding ho) h

namespace ClassFile

variable {a b : ClassFile}

/-- The check of what comes before the members is the comparison of classes that have none. -/
theorem passes_checkHeaders_iff : ((checkHeaders ctx a b).run trail).passes = true ↔
    compareHeaders ctx { a with fields := [] } { b with fields := [] } = .eq := by
  rw [← passes_checkHeaders trail]
  exact (and_iff_left (.inr rfl)).symm

/-- However fields are checked, they pass only if they pair up as equal ones. -/
theorem pairUp_fields_of_passes (hi : ctx.has .ignoreFields = false)
    (h : ((checkFields ctx a b).run trail).passes = true) :
    PairUp (fun f g => f.compare ctx g = .eq) a.fields b.fields := by
  cases hn : ctx.has .ignoreName with
  | true => exact pairUp_of_compareUnordered ((passes_checkFields_of_ignored hn).mp h)
  | false =>
    obtain ⟨hperm, hpairs⟩ := (passes_checkFields_of_pairs ⟨hi, hn⟩).mp h
    exact pairUp_of_pairsByKey hperm hpairs

theorem pairUp_methods_of_passes (hi : ctx.has .ignoreMethods = false)
    (hm : ctx.mode ≠ .declarationsOnly) (h : ((checkMethods ctx a b).run trail).passes = true) :
    PairUp (fun m n => m.compare ctx n = .eq) a.methods b.methods := by
  by_cases hp : ctx.PairsMethods
  · obtain ⟨hperm, hpairs⟩ := (passes_checkMethods_of_pairs hp).mp h
    exact pairUp_of_pairsByKey hperm hpairs
  · exact pairUp_of_compareUnordered ((passes_checkMethods_of_unpaired hi hm hp).mp h)

theorem passes_checkFields_adding (hi : (ctx.adding o).has .ignoreFields = false)
    (h : ((checkFields ctx a b).run trail).passes = true) :
    ((checkFields (ctx.adding o) a b).run trail).passes = true := by
  have hequal (f g : Field) : f.compare ctx g = .eq → f.compare (ctx.adding o) g = .eq :=
    Field.compare_mono (ctx.coarsens_adding o [] []).options
  have hi' := Context.has_eq_false_of_adding hi
  cases hn : (ctx.adding o).has .ignoreName with
  | true =>
    have hpairs := pairUp_imp (fun f _ g _ => hequal f g) (pairUp_fields_of_passes hi' h)
    exact (passes_checkFields_of_ignored hn).mpr (compareUnordered_eq_eq.mpr hpairs)
  | false =>
    have hp : ctx.PairsFields := ⟨hi', Context.has_eq_false_of_adding hn⟩
    obtain ⟨hperm, hpairs⟩ := (passes_checkFields_of_pairs hp).mp h
    exact (passes_checkFields_of_pairs ⟨hi, hn⟩).mpr
      ⟨hperm, fun pair hpair => hequal _ _ (hpairs pair hpair)⟩

/-- The one case in which labels count: methods that were paired are now compared in any order. -/
theorem passes_checkMethods_adding (ho : o ≠ .ignoreLineNumbers)
    (hl : ctx.fixed = true ∨ ctx.LabelConsistent {m | m ∈ a.methods ++ b.methods})
    (hi : (ctx.adding o).has .ignoreMethods = false)
    (h : ((checkMethods ctx a b).run trail).passes = true) :
    ((checkMethods (ctx.adding o) a b).run trail).passes = true := by
  have hequal (m n : Method) : m.compare ctx n = .eq → m.compare (ctx.adding o) n = .eq :=
    Method.compare_adding ho
  have hi' := Context.has_eq_false_of_adding hi
  by_cases hm : ctx.mode = .declarationsOnly
  · have hm' : (ctx.adding o).mode = .declarationsOnly := hm
    exact (passes_checkMethods_of_declarations hm').mpr
      ((passes_checkMethods_of_declarations hm).mp h)
  by_cases hp : (ctx.adding o).PairsMethods
  · have hp' : ctx.PairsMethods := ⟨hi', hp.2.1,
      Context.has_eq_false_of_adding hp.2.2.1, Context.has_eq_false_of_adding hp.2.2.2⟩
    obtain ⟨hperm, hpairs⟩ := (passes_checkMethods_of_pairs hp').mp h
    exact (passes_checkMethods_of_pairs hp).mpr
      ⟨hperm, fun pair hpair => hequal _ _ (hpairs pair hpair)⟩
  · have hmode : (ctx.adding o).mode ≠ .declarationsOnly := hm
    have hl' : (ctx.adding o).fixed = true ∨
        (ctx.adding o).LabelConsistent {m | m ∈ a.methods ++ b.methods} :=
      hl.imp_right (Context.labelConsistent_adding ho)
    have hpairs := pairUp_imp (fun m _ n _ => hequal m n) (pairUp_methods_of_passes hi' hm h)
    exact (passes_checkMethods_of_unpaired hi hmode hp).mpr
      ((Method.compareUnordered_eq_eq hl').mpr hpairs)

theorem passes_check_adding (ho : o ≠ .ignoreLineNumbers)
    (hl : ctx.fixed = true ∨ ctx.LabelConsistent {m | m ∈ a.methods ++ b.methods})
    (h : ((a.check ctx b).run trail).passes = true) :
    ((a.check (ctx.adding o) b).run trail).passes = true := by
  obtain ⟨hheaders, hfields, hmethods⟩ := passes_check_iff_parts.mp h
  refine passes_check_iff_parts.mpr ⟨?_, ?_, ?_⟩
  · rw [passes_checkHeaders_iff] at hheaders ⊢
    exact compareHeaders_mono (ctx.coarsens_adding o [] []).options hheaders
  · cases hi : (ctx.adding o).has .ignoreFields with
    | true => exact .inl rfl
    | false =>
      have hnot := Context.has_eq_false_of_adding hi
      exact .inr (passes_checkFields_adding hi (hfields.resolve_left (by simp [hnot])))
  · cases hi : (ctx.adding o).has .ignoreMethods with
    | true => exact .inl rfl
    | false =>
      have hnot := Context.has_eq_false_of_adding hi
      exact .inr (passes_checkMethods_adding ho hl hi (hmethods.resolve_left (by simp [hnot])))

end ClassFile

namespace Kind

/-- Nodes that pass their check still do when an option is added that is not the one for line
numbers. Classes do if labels are resolved in one way throughout. -/
theorem passes_check_of_added_option {k : Kind} (ho : o ≠ .ignoreLineNumbers) {a b : k.Node}
    (hl : k = .classFile →
      ctx.fixed = true ∨ ctx.LabelConsistent {m | m ∈ k.methods a ++ k.methods b})
    (h : ((k.check ctx a b).run trail).passes = true) :
    ((k.check (ctx.adding o) a b).run trail).passes = true := by
  by_cases hk : k = .classFile
  · subst hk
    exact ClassFile.passes_check_adding ho (hl rfl) h
  · rw [passes_check_iff_equal hk] at h ⊢
    exact compare_mono hk (ctx.coarsensThroughout_adding ho) h

/-- Methods that were paired by their names, and jump to labels of the same place, pass in any order
when names are ignored. -/
theorem passes_check_of_ignored_names :
    ((Kind.check .classFile (Context.plain.adding .ignoreName)
      (.bare "C" [] [.bare "m" "()V" [.label ⟨0⟩, .jump 167 ⟨0⟩], .bare "n" "()V" []])
      (.bare "C" [] [.bare "n" "()V" [], .bare "m" "()V" [.label ⟨0⟩, .jump 167 ⟨0⟩]])).run
      .empty).passes = true :=
  passes_check_of_added_option (by decide) (fun _ => .inr (by decide)) (by decide)

end Kind

end ClassMatch
