import ClassMatch.Number.Shortest

/-!
Binary floating point numbers of 32 and 64 bits, given by their bits. Two relations on them are
kept apart: numeric equality, under which both zeros are equal and no NaN equals anything, and the
total order of all bit patterns, under which only identical bits are equal.
-/
namespace ClassMatch.Number

/-- Sizes of the parts of a floating point format. -/
structure Format where
  mantissaBits : Nat
  exponentBits : Nat
  maxDigits : Nat

def Format.single : Format := ⟨23, 8, 9⟩
def Format.double : Format := ⟨52, 11, 17⟩

namespace Format

def signBit (f : Format) : Nat := Nat.pow 2 (f.mantissaBits + f.exponentBits)

/-- The number of values of the mantissa. -/
def mantissaCount (f : Format) : Nat := Nat.pow 2 f.mantissaBits

/-- The bits of infinity; greater magnitudes are NaN. -/
def infinity (f : Format) : Nat := (Nat.pow 2 f.exponentBits - 1) * f.mantissaCount

/-- The bits without the sign. -/
def magnitude (f : Format) (bits : Nat) : Nat := bits % f.signBit

def isNaN (f : Format) (bits : Nat) : Bool := f.infinity < f.magnitude bits
def isNegative (f : Format) (bits : Nat) : Bool := f.signBit ≤ bits

/-- Numeric equality. -/
def numericEq (f : Format) (a b : Nat) : Bool :=
  !f.isNaN a && !f.isNaN b && (a == b || (f.magnitude a == 0 && f.magnitude b == 0))

/-- Position in the total order: negative numbers count down from `-1`. -/
def orderKey (f : Format) (bits : Nat) : Int :=
  if f.isNegative bits then (f.signBit : Int) - 1 - bits else bits

/-- The positive number with these bits, which are neither zero nor infinite. -/
def rounding (f : Format) (magnitude : Nat) : Rounding :=
  let fraction := magnitude % f.mantissaCount
  let field := magnitude / f.mantissaCount
  let bias := Nat.pow 2 (f.exponentBits - 1) - 1 + f.mantissaBits
  let exponent (e : Nat) : Int := (e : Int) - bias
  if field = 0 then Rounding.ofBinary fraction (exponent 1) false
  else Rounding.ofBinary (f.mantissaCount + fraction) (exponent field) (fraction = 0 && 1 < field)

/-- Plain notation is used for leading places from `-4` to `15`, and always has a point with a
digit on either side; other numbers have an exponent, and a point only between two digits. -/
def layOut (digits : List Char) (leadingPlace : Int) : String :=
  let zeros (n : Nat) := List.replicate n '0'
  if -4 ≤ leadingPlace ∧ leadingPlace < 0 then
    "0." ++ String.ofList (zeros ((-leadingPlace).toNat - 1) ++ digits)
  else if 0 ≤ leadingPlace ∧ leadingPlace < 16 then
    let whole := leadingPlace.toNat + 1
    let fraction := digits.drop whole
    String.ofList (digits.take whole ++ zeros (whole - digits.length)) ++ "." ++
      String.ofList (if fraction.isEmpty then ['0'] else fraction)
  else
    let fraction := digits.drop 1
    let point := if fraction.isEmpty then [] else ['.']
    String.ofList (digits.take 1 ++ point ++ fraction) ++ "e" ++ toString leadingPlace

/-- The shortest text that reads back as the number; a NaN is shown without sign and payload. -/
def text (f : Format) (bits : Nat) : String :=
  let magnitude := f.magnitude bits
  if f.isNaN bits then "NaN"
  else
    let positive :=
      if magnitude = f.infinity then "inf"
      else if magnitude = 0 then "0.0"
      else
        let (digits, leadingPlace) := ((f.rounding magnitude).shortest f.maxDigits).scientific
        layOut digits leadingPlace
    if f.isNegative bits then "-" ++ positive else positive

end Format

structure Binary32 where
  bits : UInt32
  deriving DecidableEq

structure Binary64 where
  bits : UInt64
  deriving DecidableEq

instance : BEq Binary32 := ⟨fun a b => Format.single.numericEq a.bits.toNat b.bits.toNat⟩
instance : BEq Binary64 := ⟨fun a b => Format.double.numericEq a.bits.toNat b.bits.toNat⟩

/-- The total order of all bit patterns. -/
def Binary32.totalOrder (a b : Binary32) : Ordering :=
  compare (Format.single.orderKey a.bits.toNat) (Format.single.orderKey b.bits.toNat)

/-- The total order of all bit patterns. -/
def Binary64.totalOrder (a b : Binary64) : Ordering :=
  compare (Format.double.orderKey a.bits.toNat) (Format.double.orderKey b.bits.toNat)

def Binary32.text (x : Binary32) : String := Format.single.text x.bits.toNat
def Binary64.text (x : Binary64) : String := Format.double.text x.bits.toNat

end ClassMatch.Number
