import ClassMatch.Access.Flag

/-!
Access masks. What a mask is attached to decides which of its bits mean something; two masks say
the same when they agree on those bits.
-/
namespace ClassMatch

/-- What an access mask is attached to. -/
inductive AccessKind
  | onClass | onField | onMethod | onParameter | onInnerClass
  | onModule | onRequires | onExports | onOpens
  deriving DecidableEq

namespace AccessKind

open AccessFlag

/-- The flags with a meaning for this kind, in the order of listing. -/
def flags : AccessKind → List AccessFlag
  | .onClass =>
    [publicAccess, privateAccess, protectedAccess, final, super, interfaceType, abstract,
      synthetic, annotationType, enumType, moduleType, recordType, deprecated]
  | .onField =>
    [publicAccess, privateAccess, protectedAccess, static, final, volatile, transient, synthetic,
      enumType, deprecated]
  | .onMethod =>
    [publicAccess, privateAccess, protectedAccess, static, final, synchronized, bridge, varargs,
      native, abstract, strict, synthetic, deprecated]
  | .onParameter => [final, synthetic, mandated]
  | .onInnerClass =>
    [publicAccess, privateAccess, protectedAccess, static, final, interfaceType, abstract,
      synthetic, annotationType, enumType]
  | .onModule => [openModule, synthetic, mandated]
  | .onRequires => [transitive, staticPhase, synthetic, mandated]
  | .onExports | .onOpens => [synthetic, mandated]

/-- The bits with a meaning for this kind, whatever flags they stand for. -/
def bits : AccessKind → List UInt32
  | .onClass =>
    [0x0001, 0x0002, 0x0004, 0x0010, 0x0020, 0x0200, 0x0400, 0x1000, 0x2000, 0x4000, 0x8000,
      0x10000, 0x20000]
  | .onField =>
    [0x0001, 0x0002, 0x0004, 0x0008, 0x0010, 0x0040, 0x0080, 0x1000, 0x4000, 0x20000]
  | .onMethod =>
    [0x0001, 0x0002, 0x0004, 0x0008, 0x0010, 0x0020, 0x0040, 0x0080, 0x0100, 0x0400, 0x0800,
      0x1000, 0x20000]
  | .onParameter => [0x0010, 0x1000, 0x8000]
  | .onInnerClass =>
    [0x0001, 0x0002, 0x0004, 0x0008, 0x0010, 0x0200, 0x0400, 0x1000, 0x2000, 0x4000]
  | .onModule => [0x0020, 0x1000, 0x8000]
  | .onRequires => [0x0020, 0x0040, 0x1000, 0x8000]
  | .onExports | .onOpens => [0x1000, 0x8000]

/-- All bits with a meaning for this kind. -/
def legalMask (kind : AccessKind) : UInt32 := kind.bits.foldl (fun mask bit => mask ||| bit) 0

/-- The bits with a meaning are those of the flags with a meaning. -/
theorem legalMask_eq_flags (kind : AccessKind) :
    kind.legalMask = kind.flags.foldl (fun mask flag => mask ||| flag.bit) 0 := by
  cases kind <;> rfl

/-- The mask without the bits that mean nothing for this kind. -/
def truncate (kind : AccessKind) (mask : UInt32) : UInt32 := mask &&& kind.legalMask

/-- The mask, if all of its bits mean something for this kind. -/
def checked? (kind : AccessKind) (mask : UInt32) : Option UInt32 :=
  if kind.truncate mask = mask then some mask else none

end AccessKind

/-- An access mask and what it is attached to. -/
structure Access where
  mask : UInt32
  kind : AccessKind
  deriving DecidableEq

namespace Access

/-- The flags in the mask that mean something for its kind, in the order of listing. -/
def flags (access : Access) : List AccessFlag :=
  access.kind.flags.filter fun flag => flag.isSet access.mask

def names (access : Access) : List String := access.flags.map AccessFlag.keyword

/-- The bits of the mask that mean nothing for its kind. -/
def irrelevantBits (access : Access) : UInt32 := access.mask &&& ~~~access.kind.legalMask

/-- The names of the flags in upper case, the way constants are written. -/
def constantNames (access : Access) : String :=
  if access.flags.isEmpty then "(empty)"
  else " | ".intercalate (access.names.map String.toUpper)

/-- The keyword that declares a type with this mask; records and modules are told apart from
classes only on a class itself. -/
def declarationKeyword (access : Access) : String :=
  if AccessFlag.enumType.isSet access.mask then "enum"
  else if AccessFlag.annotationType.isSet access.mask then "@interface"
  else if AccessFlag.interfaceType.isSet access.mask then "interface"
  else if access.kind = .onClass ∧ AccessFlag.recordType.isSet access.mask then "record"
  else if access.kind = .onClass ∧ AccessFlag.moduleType.isSet access.mask then "module"
  else "class"

end Access

end ClassMatch
