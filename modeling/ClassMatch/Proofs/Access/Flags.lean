import ClassMatch.Order.Declaration
import Mathlib

/-!
What an access mask says. Each flag is one bit and has a keyword of its own, so two masks on the
same kind of declaration have the same names exactly if they agree on the bits with a meaning for
it.
-/
namespace ClassMatch

theorem and_or_eq_iff {a b x y : UInt32} :
    a &&& (x ||| y) = b &&& (x ||| y) ↔ a &&& x = b &&& x ∧ a &&& y = b &&& y := by
  have hbool : ∀ p q s t : Bool, (p && (s || t)) = (q && (s || t)) ↔
      (p && s) = (q && s) ∧ (p && t) = (q && t) := by decide
  simp only [← UInt32.toBitVec_inj, UInt32.toBitVec_and, UInt32.toBitVec_or,
    BitVec.eq_of_getLsbD_eq_iff, BitVec.getLsbD_and, BitVec.getLsbD_or, hbool, imp_and, forall_and]

namespace AccessFlag

theorem bit_eq_two_pow (flag : AccessFlag) : flag.bit.toNat = 2 ^ flag.bit.toNat.log2 := by
  cases flag <;> decide

/-- A flag is one bit, so it is in a mask as a whole or not at all. -/
theorem and_bit (flag : AccessFlag) (mask : UInt32) :
    mask &&& flag.bit = if flag.isSet mask then flag.bit else 0 := by
  have h : mask &&& flag.bit = 0 ∨ mask &&& flag.bit = flag.bit := by
    simp only [← UInt32.toNat_inj, UInt32.toNat_and]
    rw [bit_eq_two_pow, Nat.and_two_pow]
    cases mask.toNat.testBit flag.bit.toNat.log2 <;> simp
  unfold isSet
  rcases h with h | h <;> simp [h]

theorem and_bit_eq_iff {flag : AccessFlag} {a b : UInt32} :
    a &&& flag.bit = b &&& flag.bit ↔ flag.isSet a = flag.isSet b := by
  constructor
  · intro h
    rw [isSet, isSet, h]
  · intro h
    rw [and_bit, and_bit, h]

theorem mem_all (flag : AccessFlag) : flag ∈ all := by
  cases flag <;> decide

theorem keyword_injective : Function.Injective keyword := fun a b h =>
  List.inj_on_of_nodup_map (l := all) (by decide) (mem_all a) (mem_all b) h

end AccessFlag

theorem AccessKind.truncate_eq_iff {kind : AccessKind} {a b : UInt32} :
    kind.truncate a = kind.truncate b ↔
      ∀ flag ∈ kind.flags, flag.isSet a = flag.isSet b := by
  have key (flags : List AccessFlag) (mask : UInt32) :
      a &&& flags.foldl (fun mask flag => mask ||| flag.bit) mask =
          b &&& flags.foldl (fun mask flag => mask ||| flag.bit) mask ↔
        a &&& mask = b &&& mask ∧ ∀ flag ∈ flags, flag.isSet a = flag.isSet b := by
    induction flags generalizing mask with
    | nil => simp
    | cons flag flags ih =>
      rw [List.foldl_cons, ih, and_or_eq_iff, AccessFlag.and_bit_eq_iff, List.forall_mem_cons,
        and_assoc]
  rw [truncate, truncate, legalMask_eq_flags, key kind.flags 0]
  exact and_iff_right (by simp)

/-- Masks on the same kind have the same names exactly if they agree on the bits with a meaning for
it. -/
theorem Access.names_eq_names_iff {kind : AccessKind} {a b : UInt32} :
    names ⟨a, kind⟩ = names ⟨b, kind⟩ ↔ kind.truncate a = kind.truncate b := by
  rw [AccessKind.truncate_eq_iff, Access.names, Access.names,
    List.map_inj_right fun _ _ h => AccessFlag.keyword_injective h, Access.flags, Access.flags]
  constructor
  · intro h flag hflag
    have hmem : flag ∈ kind.flags.filter (fun flag => flag.isSet a) ↔
        flag ∈ kind.flags.filter fun flag => flag.isSet b := by rw [h]
    rw [Bool.eq_iff_iff]
    simpa [hflag] using hmem
  · exact List.filter_congr

theorem Access.compare_eq_eq {kind : AccessKind} {a b : UInt32} :
    Access.compare ⟨a, kind⟩ ⟨b, kind⟩ = .eq ↔ kind.truncate a = kind.truncate b := by
  rw [Access.compare, Std.LawfulEqCmp.compare_eq_iff_eq, names_eq_names_iff]

end ClassMatch
