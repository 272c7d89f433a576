/-!
The shortest decimal that reads back as a given binary number.
A positive binary number is a fraction together with the two midpoints towards its neighbours;
any decimal between them reads back as the number itself. For 1, 2, … digits the two decimals
around the number on that grid are tried, and the first grid with a hit gives the answer.
-/
namespace ClassMatch.Number

/-- The number `numerator / denominator` with the distances to the midpoints on either side, over
the same denominator. The midpoints themselves read back as the number when `inclusive`. -/
structure Rounding where
  numerator : Nat
  denominator : Nat
  below : Nat
  above : Nat
  inclusive : Bool

/-- `coefficient * 2 ^ exponent`, whose lower neighbour is only half as far away as the upper one
when `lowerHalf`. Ties on reading go to an even coefficient. -/
def Rounding.ofBinary (coefficient : Nat) (exponent : Int) (lowerHalf : Bool) : Rounding :=
  let scale := Nat.pow 2 exponent.toNat
  { numerator := 4 * coefficient * scale
    denominator := 4 * Nat.pow 2 (-exponent).toNat
    below := (if lowerHalf then 1 else 2) * scale
    above := 2 * scale
    inclusive := coefficient % 2 = 0 }

def decimalLength (n : Nat) : Nat := (Nat.toDigits 10 n).length

/-- Place of the first decimal digit: the greatest `p` with `10 ^ p` not above the number. -/
def Rounding.leadingPlace (r : Rounding) : Int :=
  if r.denominator ≤ r.numerator then decimalLength (r.numerator / r.denominator) - 1
  else -(decimalLength ((r.denominator - 1) / r.numerator) : Int)

/-- A decimal is `digits * 10 ^ place`. -/
structure Decimal where
  digits : Nat
  place : Int

/-- The decimal reads back as the number. -/
def Rounding.contains (r : Rounding) (d : Decimal) : Bool :=
  let value := d.digits * Nat.pow 10 d.place.toNat * r.denominator
  let unit := Nat.pow 10 (-d.place).toNat
  let low := (r.numerator - r.below) * unit
  let high := (r.numerator + r.above) * unit
  if r.inclusive then low ≤ value && value ≤ high else low < value && value < high

/-- The nearest of the two decimals around the number with the given place of the last digit, among
those that read back as the number; halfway between two of them, the greater. -/
def Rounding.onGrid? (r : Rounding) (place : Int) : Option Decimal :=
  let unit := Nat.pow 10 place.toNat * r.denominator
  let scaled := r.numerator * Nat.pow 10 (-place).toNat
  let down : Decimal := ⟨scaled / unit, place⟩
  let up : Decimal := ⟨scaled / unit + 1, place⟩
  match r.contains down, r.contains up with
  | true, true => some (if 2 * (scaled % unit) < unit then down else up)
  | true, false => some down
  | false, true => some up
  | false, false => none

/-- The decimal with the fewest digits, at most `maxDigits`, that reads back as the number. -/
def Rounding.shortest (maxDigits : Nat) (r : Rounding) : Decimal :=
  let places := (List.range maxDigits).map fun n : Nat => r.leadingPlace - n
  (places.findSome? r.onGrid?).getD ⟨0, 0⟩

/-- Digits of the decimal without the zeros at their end, and the place of the first digit. -/
def Decimal.scientific (d : Decimal) : List Char × Int :=
  let digits := Nat.toDigits 10 d.digits
  ((digits.reverse.dropWhile (· = '0')).reverse, d.place + digits.length - 1)

end ClassMatch.Number
