import ClassMatch.Check.Assertion
import ClassMatch.Proofs.Check.Agreement

/-!
When assertions pass. Without indices that are given, labels are judged by their place alone.
-/
namespace ClassMatch

variable {setup : Setup}

namespace Setup

theorem context_fixed (h : setup.indices = none) : setup.context.fixed = false := by
  rw [context, h]
  rfl

theorem context_indices (h : setup.indices = none) (l : Label) :
    setup.context.indices l = none := by
  rw [context, h]
  rfl

end Setup

theorem passes_assertMethod {actual expected : Method} :
    (assertNode .method setup none actual expected).passes = true ↔
      actual.compare setup.context expected = .eq :=
  Method.passes_check

theorem passes_assertInstructions (ho : setup.options = .empty)
    {actual expected : List Instruction} :
    (assertInstructions setup actual expected).passes = true ↔
      compareLists (Instruction.compare (setup.context.forInstructions actual expected))
        actual expected = .eq := by
  have h : setup.context.has .ignoreLineNumbers = false := Context.has_eq_false ho _
  simp [assertInstructions, h, Check.passes_all]

end ClassMatch
