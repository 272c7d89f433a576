import ClassMatch.Check.Assertion
import ClassMatch.Proofs.Check.OneByOne
import ClassMatch.Proofs.Check.Agreement
import ClassMatch.Proofs.Order.Preorder

/-!
The ways in which lists of nodes can be asked to match, ordered by how much they ask. Lists that
match in order or one by one match in any order. Where equal nodes have the same key, lists that
match in order match one by one, and where no key is repeated, so do those that match in any order.
-/
namespace ClassMatch

variable {k : Kind} {ctx : Context} {key : k.Node → String} {actual expected : List k.Node}
  {trail : Trail}

/-- Lists of nodes below classes are equal out of order exactly if their nodes pair up as equal
ones, as long as the labels of methods are resolved in one way throughout. -/
theorem Kind.compareUnordered_eq_eq (hk : k ≠ .classFile)
    (hl : k = .method → ctx.fixed = true ∨
      ctx.LabelConsistent {m | m ∈ (actual ++ expected).flatMap k.methods}) :
    compareUnordered (k.compare ctx) actual expected = .eq ↔
      PairUp (fun a e => k.compare ctx a e = .eq) actual expected := by
  by_cases hm : k = .method
  · subst hm
    have hmethods : (actual ++ expected).flatMap (Kind.methods .method) = actual ++ expected :=
      List.flatMap_singleton' _
    rw [hmethods] at hl
    exact Method.compareUnordered_eq_eq (hl rfl)
  · have := transCmp_compare ctx hm hk
    exact ClassMatch.compareUnordered_eq_eq

namespace Matching

/-- The check of two lists that are present, by the natural order or the check of their kind. -/
def check (k : Kind) (ctx : Context) (key : k.Node → String) (actual expected : List k.Node) :
    Matching → Check
  | anyOrder => checkAnyOrder k (.natural k) ctx (some actual) (some expected)
  | oneByOne => checkOneByOne k ctx (k.check ctx) key (some actual) (some expected)
  | inOrder => checkInOrder k ctx (k.check ctx) (some actual) (some expected)

/-- This is the check that an assertion without a comparator runs. -/
theorem assertList_eq_run_check (matching : Matching) (setup : Setup) :
    assertList k setup none (some key) matching (some actual) expected =
      .ok ((matching.check k setup.context key actual expected).run setup.describedTrail) := by
  cases matching <;> rfl

theorem passes_check_inOrder (hk : k ≠ .classFile) :
    ((inOrder.check k ctx key actual expected).run trail).passes = true ↔
      List.Forall₂ (fun a e => k.compare ctx a e = .eq) actual expected := by
  have h := @passes_checkInOrder trail ctx k (k.check ctx) (k.compare ctx)
    (k.passes_check_iff_equal hk ctx) (some actual) (some expected)
  rwa [compareOptional_some, compareLists_eq_eq] at h

theorem passes_check_oneByOne (hk : k ≠ .classFile) :
    ((oneByOne.check k ctx key actual expected).run trail).passes = true ↔
      MatchByKey key (fun a e => k.compare ctx a e = .eq) actual expected := by
  rw [matchByKey_iff]
  exact passes_checkOneByOne (k.passes_check_iff_equal hk ctx) key actual expected

theorem passes_check_anyOrder (hk : k ≠ .classFile)
    (hl : k = .method → ctx.fixed = true ∨
      ctx.LabelConsistent {m | m ∈ (actual ++ expected).flatMap k.methods}) :
    ((anyOrder.check k ctx key actual expected).run trail).passes = true ↔
      PairUp (fun a e => k.compare ctx a e = .eq) actual expected := by
  rw [← Kind.compareUnordered_eq_eq hk hl]
  exact passes_checkAnyOrder

/-- Lists of nodes below classes that pass in order or one by one pass in any order. If equal nodes
have the same key, they pass one by one when they pass in order, and, if no key is repeated in
either list, also when they pass in any order. -/
theorem passes_check_of_stricter (hk : k ≠ .classFile)
    (hl : k = .method → ctx.fixed = true ∨
      ctx.LabelConsistent {m | m ∈ (actual ++ expected).flatMap k.methods})
    (key : k.Node → String) (trail : Trail) :
    (((inOrder.check k ctx key actual expected).run trail).passes = true →
      ((anyOrder.check k ctx key actual expected).run trail).passes = true) ∧
    (((oneByOne.check k ctx key actual expected).run trail).passes = true →
      ((anyOrder.check k ctx key actual expected).run trail).passes = true) ∧
    ((∀ a ∈ actual, ∀ e ∈ expected, k.compare ctx a e = .eq → key a = key e) →
      (((inOrder.check k ctx key actual expected).run trail).passes = true →
        ((oneByOne.check k ctx key actual expected).run trail).passes = true) ∧
      ((actual.map key).Nodup → (expected.map key).Nodup →
        ((anyOrder.check k ctx key actual expected).run trail).passes = true →
          ((oneByOne.check k ctx key actual expected).run trail).passes = true)) := by
  rw [passes_check_inOrder hk, passes_check_oneByOne hk, passes_check_anyOrder hk hl]
  refine ⟨pairUp_of_forall₂, pairUp_of_matchByKey, fun hkey => ⟨fun h => ?_, fun _ hn h => ?_⟩⟩
  · refine matchByKey_of_forall₂ (forall₂_imp_of_mem (fun a ha e he hae => ?_) h)
    exact ⟨hkey a ha e he hae, hae⟩
  · refine matchByKey_of_pairUp hn (pairUp_imp (fun a ha e he hae => ?_) h)
    exact ⟨hkey a ha e he hae, hae⟩

/-- Two methods that trade places have declarations of their own, and labels in the same places. -/
theorem passes_check_of_traded_places :
    ((oneByOne.check .method .plain Method.declaration
      [.bare "m" "()V" [.label ⟨0⟩, .jump 167 ⟨0⟩], .bare "n" "()V" [.label ⟨0⟩]]
      [.bare "n" "()V" [.label ⟨3⟩], .bare "m" "()V" [.label ⟨0⟩, .jump 167 ⟨0⟩]]).run
      .empty).passes = true := by
  refine ((passes_check_of_stricter (k := .method) ?_ (fun _ => .inr ?_) Method.declaration
    .empty).2.2 ?_).2 ?_ ?_ (passes_checkAnyOrder.mpr ?_)
  all_goals decide

end Matching

end ClassMatch
