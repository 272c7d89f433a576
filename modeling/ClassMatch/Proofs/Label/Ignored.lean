import ClassMatch.Order.Comparator
import ClassMatch.Proofs.Options.Coarser
import ClassMatch.Proofs.Order.Preorder

/-!
Comparators that ignore labels. They take all labels for the same, so they find no difference where
the natural order finds none, although the two may sort the parts of a node in different ways and
the natural order may resolve the labels of each pair of methods in a way of its own.
-/
namespace ClassMatch

/-- All labels have one index, and no instruction list gives them another one. -/
theorem Context.coarsensThroughout_ignoringLabels (ctx : Context) :
    ctx.CoarsensThroughout ctx.ignoringLabels where
  labels _ _ := ⟨fun _ => id, fun _ _ _ _ _ => rfl⟩
  bodies as bs _ _ := by
    refine ⟨fun o ho => ?_, fun _ _ _ _ _ => rfl⟩
    rwa [has, forInstructions_options] at ho
  view _ := rfl

/-- Nodes that are equal in the natural order of their kind are equal when labels are ignored. -/
theorem Kind.equal_ignoringLabels_of_equal (k : Kind) (ctx : Context) {a b : k.Node}
    (h : (Comparator.natural k).compare ctx a b = .eq) :
    (Comparator.natural k).ignoringLabels.compare ctx a b = .eq := by
  have hcoarser := ctx.coarsensThroughout_ignoringLabels
  by_cases hk : k = .classFile
  · subst hk
    have : Std.TransCmp (Method.compare ctx.ignoringLabels) := Method.transCmp_compare rfl
    exact ClassFile.compare_mono hcoarser rfl h
  · exact compare_mono hk hcoarser h

/-- Two classes share their methods, which place the same labels in opposite orders. -/
theorem Kind.equal_ignoringLabels_of_traded_methods :
    (Comparator.natural .classFile).ignoringLabels.compare .plain
      (.bare "C" [] [.bare "m" "()V" [.label ⟨0⟩, .label ⟨1⟩, .jump 167 ⟨1⟩],
        .bare "n" "()V" [.label ⟨1⟩, .label ⟨0⟩, .jump 167 ⟨1⟩]])
      (.bare "C" [] [.bare "n" "()V" [.label ⟨1⟩, .label ⟨0⟩, .jump 167 ⟨1⟩],
        .bare "m" "()V" [.label ⟨0⟩, .label ⟨1⟩, .jump 167 ⟨1⟩]]) = .eq :=
  equal_ignoringLabels_of_equal .classFile .plain (by decide)

/-- The converse fails: where a jump goes makes no difference any more. -/
example : Kind.compare .method .plain (.bare "m" "()V" [.label ⟨0⟩, .label ⟨1⟩, .jump 167 ⟨0⟩])
      (.bare "m" "()V" [.label ⟨0⟩, .label ⟨1⟩, .jump 167 ⟨1⟩]) = .lt ∧
    (Comparator.natural .method).ignoringLabels.compare .plain
      (.bare "m" "()V" [.label ⟨0⟩, .label ⟨1⟩, .jump 167 ⟨0⟩])
      (.bare "m" "()V" [.label ⟨0⟩, .label ⟨1⟩, .jump 167 ⟨1⟩]) = .eq := by
  decide

end ClassMatch
