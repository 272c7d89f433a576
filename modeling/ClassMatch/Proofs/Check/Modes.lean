import ClassMatch.Proofs.Check.Equivalence

/-!
The modes in which methods are compared, ordered by strictness. As long as names and descriptors
count, classes that pass one by one pass as wholes, and classes that pass as wholes declare the same
methods. Where no declaration is repeated, one by one is no stricter than as wholes.
-/
namespace ClassMatch

open Std

variable {ctx : Context} {mode : MethodsMode} {trail : Trail}

/-- The context in which methods are compared in the given mode. -/
def Context.inMode (ctx : Context) (mode : MethodsMode) : Context := { ctx with mode }

theorem Context.forInstructions_inMode (as bs : List Instruction) :
    (ctx.inMode mode).forInstructions as bs = (ctx.forInstructions as bs).inMode mode := by
  obtain ⟨_, _, _, fixed, _, _⟩ := ctx
  cases fixed <;> rfl

/-- The mode makes no difference inside of methods. -/
theorem Method.compare_inMode (ctx : Context) (mode : MethodsMode) :
    Method.compare (ctx.inMode mode) = Method.compare ctx := by
  have hbodies (ctx : Context) (a b : Method) :
      compareBodies (ctx.inMode mode) a b = compareBodies ctx a b :=
    compareBodies_congr ⟨rfl, fun _ _ => rfl⟩ ⟨rfl, fun _ _ => rfl⟩
  funext a b
  rw [Method.compare, compareViews, Context.forInstructions_inMode, hbodies]
  rfl

namespace ClassFile

variable {a b : ClassFile}

/-- What a mode asks of the methods while their names and descriptors count. -/
def MethodsMatch (ctx : Context) (a b : ClassFile) : MethodsMode → Prop
  | .declarationsOnly => a.declarations.Perm b.declarations
  | .oneByOne =>
    MatchByKey Method.declaration (fun m n => m.compare ctx n = .eq) a.methods b.methods
  | .full => compareUnordered (Method.compare ctx) a.methods b.methods = .eq

def withoutMethods (c : ClassFile) : ClassFile := { c with methods := [] }

section Named

variable (hn : ctx.has .ignoreName = false) (hd : ctx.has .ignoreDescriptor = false)

include hn hd

/-- Methods that count match as the mode asks, and that is all that depends on the mode. -/
theorem passes_checkMethods_inMode (hi : ctx.has .ignoreMethods = false) :
    ((checkMethods (ctx.inMode mode) a b).run trail).passes = true ↔ a.MethodsMatch ctx b mode := by
  have hi' : (ctx.inMode mode).has .ignoreMethods = false := hi
  have hcompare := Method.compare_inMode ctx mode
  cases mode with
  | declarationsOnly => exact passes_checkMethods_of_declarations rfl
  | oneByOne =>
    have hp : (ctx.inMode .oneByOne).PairsMethods := ⟨hi, rfl, hn, hd⟩
    rw [passes_checkMethods_iff hi' nofun, membersMatch_of_paired hp, hcompare]
    rfl
  | full =>
    have hp : ¬ (ctx.inMode .full).PairsMethods := fun h => nomatch h.2.1
    rw [passes_checkMethods_iff hi' nofun, membersMatch_of_unpaired hp, hcompare]
    rfl

/-- In any mode, classes pass exactly if they do without their methods and the methods match. -/
theorem passes_check_inMode :
    ((a.check (ctx.inMode mode) b).run trail).passes = true ↔
      ((a.withoutMethods.check ctx b.withoutMethods).run trail).passes = true ∧
        (ctx.has .ignoreMethods = true ∨ a.MethodsMatch ctx b mode) := by
  have hheaders : checkHeaders (ctx.inMode mode) a b =
      checkHeaders ctx a.withoutMethods b.withoutMethods := rfl
  have hfields : checkFields (ctx.inMode mode) a b =
      checkFields ctx a.withoutMethods b.withoutMethods := rfl
  have hnone := (passes_check_iff_parts.mp (passes_check_self ctx trail a.withoutMethods)).2.2
  have hmethods : (ctx.has .ignoreMethods = true ∨ ((checkMethods (ctx.inMode mode) a b).run
      (trail.push (Trail.fieldCrumb "methods"))).passes = true) ↔
        (ctx.has .ignoreMethods = true ∨ a.MethodsMatch ctx b mode) := by
    cases hi : ctx.has .ignoreMethods with
    | true => simp
    | false => rw [passes_checkMethods_inMode hn hd hi]
  rw [passes_check_iff_parts, passes_check_iff_parts, hheaders, hfields, and_assoc, and_assoc]
  refine and_congr_right fun _ => and_congr_right fun _ => ?_
  exact hmethods.trans (and_iff_right hnone).symm

/-- Classes that pass one by one do so as wholes if labels are resolved in one way throughout, and
classes that pass as wholes do so by their declarations. If no declaration is repeated in either
class, they pass one by one exactly if they do as wholes. -/
theorem passes_check_of_stricter_mode (a b : ClassFile) (trail : Trail) :
    (ctx.fixed = true ∨ ctx.LabelConsistent {m | m ∈ a.methods ++ b.methods} →
      ((a.check (ctx.inMode .oneByOne) b).run trail).passes = true →
        ((a.check (ctx.inMode .full) b).run trail).passes = true) ∧
    (((a.check (ctx.inMode .full) b).run trail).passes = true →
      ((a.check (ctx.inMode .declarationsOnly) b).run trail).passes = true) ∧
    (a.declarations.Nodup → b.declarations.Nodup →
      (((a.check (ctx.inMode .oneByOne) b).run trail).passes = true ↔
        ((a.check (ctx.inMode .full) b).run trail).passes = true)) := by
  have hkey := Method.decidedByKey hn hd
  simp only [passes_check_inMode hn hd]
  refine ⟨fun hl => ?_, ?_, fun ha _ => ?_⟩
  · refine And.imp_right (Or.imp_right fun h => ?_)
    exact (Method.compareUnordered_eq_eq hl).mpr (pairUp_of_matchByKey h)
  · exact And.imp_right (Or.imp_right hkey.perm_of_compareUnordered)
  · refine and_congr_right fun _ => or_congr_right ?_
    exact matchByKey_iff.trans (hkey.compareUnordered_eq_eq_iff fun _ => ha).symm

end Named

/-- Methods that trade places pass in every mode. -/
theorem passes_check_of_traded_methods :
    (((bare "C" [] [.bare "m" "()V" [.label ⟨0⟩, .jump 167 ⟨0⟩], .bare "n" "()V" []]).check
      (Context.plain.inMode .full)
      (bare "C" [] [.bare "n" "()V" [], .bare "m" "()V" [.label ⟨0⟩, .jump 167 ⟨0⟩]])).run
      .empty).passes = true := by
  refine (passes_check_of_stricter_mode rfl rfl _ _ .empty).1 (.inr ?_) ?_
  all_goals decide

end ClassFile

end ClassMatch
