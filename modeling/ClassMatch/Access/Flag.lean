/-!
Access flags. Bits are shared between flags that never stand on the same kind of declaration, so a
mask has a meaning only together with what it is attached to.
-/
namespace ClassMatch

/-- Symbolic flags in the order in which any set of them is listed. -/
inductive AccessFlag
  | publicAccess | privateAccess | protectedAccess | static | final
  | super | synchronized | openModule | transitive
  | volatile | bridge | staticPhase | varargs | transient
  | native | interfaceType | abstract | strict | synthetic
  | annotationType | enumType | mandated | moduleType | recordType | deprecated
  deriving DecidableEq

namespace AccessFlag

def all : List AccessFlag :=
  [publicAccess, privateAccess, protectedAccess, static, final, super, synchronized, openModule,
    transitive, volatile, bridge, staticPhase, varargs, transient, native, interfaceType, abstract,
    strict, synthetic, annotationType, enumType, mandated, moduleType, recordType, deprecated]

def bit : AccessFlag → UInt32
  | publicAccess => 0x0001
  | privateAccess => 0x0002
  | protectedAccess => 0x0004
  | static => 0x0008
  | final => 0x0010
  | super | synchronized | openModule | transitive => 0x0020
  | volatile | bridge | staticPhase => 0x0040
  | varargs | transient => 0x0080
  | native => 0x0100
  | interfaceType => 0x0200
  | abstract => 0x0400
  | strict => 0x0800
  | synthetic => 0x1000
  | annotationType => 0x2000
  | enumType => 0x4000
  | mandated | moduleType => 0x8000
  | recordType => 0x10000
  | deprecated => 0x20000

/-- The keyword for the flag in source code, if it has one, and else a word like it. -/
def keyword : AccessFlag → String
  | publicAccess => "public"
  | privateAccess => "private"
  | protectedAccess => "protected"
  | static => "static"
  | final => "final"
  | super => "super"
  | synchronized => "synchronized"
  | openModule => "open"
  | transitive => "transitive"
  | volatile => "volatile"
  | bridge => "bridge"
  | staticPhase => "static_phase"
  | varargs => "varargs"
  | transient => "transient"
  | native => "native"
  | interfaceType => "interface"
  | abstract => "abstract"
  | strict => "strict"
  | synthetic => "synthetic"
  | annotationType => "annotation"
  | enumType => "enum"
  | mandated => "mandated"
  | moduleType => "module"
  | recordType => "record"
  | deprecated => "deprecated"

def isSet (flag : AccessFlag) (mask : UInt32) : Bool := mask &&& flag.bit != 0

end AccessFlag

end ClassMatch
