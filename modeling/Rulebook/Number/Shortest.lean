import Rulebook.Number.Double
import Rulebook.Text.Basic

/-!
# Shortest decimal text

A number is shown with the fewest decimal digits that read back as the same binary64 value, and
of those with the digits nearest to it.  Values from `0.0001` up to below `10 ^ 16` are written
positionally, always with a fractional part; all others carry an exponent of at least two digits.
-/

namespace Rulebook

/-- A decimal magnitude: `digits * 10 ^ exponent`. -/
structure Decimal where
  /-- The digits, read as one number. -/
  digits : Nat
  /-- The power of ten of the last digit. -/
  exponent : Int
  deriving DecidableEq, Repr

namespace Decimal

/-- The exact value. -/
def toRat (decimal : Decimal) : Rat := decimal.digits * tenPow decimal.exponent

/-- Drops trailing zero digits, at most `limit` of them. -/
def trim : (limit : Nat) → Decimal → Decimal
  | 0, decimal => decimal
  | limit + 1, decimal =>
      if decimal.digits % 10 = 0 then trim limit ⟨decimal.digits / 10, decimal.exponent + 1⟩
      else decimal

end Decimal

namespace Double

/-- The exponent of the greatest power of ten that is at most a positive ratio, found among the
exponents that binary64 values have. -/
def decimalExponent (ratio : Rat) : Int :=
  let digitCount (value : Nat) : Int := (Nat.toDigits 10 value).length
  let guess := digitCount ratio.num.toNat - digitCount ratio.den
  if tenPow guess ≤ ratio then guess else guess - 1

/-- The ratio reads back as the positive value with this mantissa and exponent: it lies between
the midpoints to the two neighbouring values, and at a midpoint the even mantissa wins. -/
def readsBackAs (mantissa : Nat) (exponent : Int) (ratio : Rat) : Bool :=
  let unit := twoPow exponent
  let gapBelow : Rat :=
    if mantissa = leastMantissa && minExponent < exponent then 1 / 4 else 1 / 2
  let low := ((mantissa : Rat) - gapBelow) * unit
  let high := ((mantissa : Rat) + 1 / 2) * unit
  if mantissa % 2 = 0 then low ≤ ratio && ratio ≤ high else low < ratio && ratio < high

/-- The decimal of the given number of digits that reads back and is nearest to the value, the
even one of two that are equally near. -/
def nearestDecimal? (mantissa : Nat) (exponent : Int) (count : Nat) : Option Decimal :=
  let value := (mantissa : Rat) * twoPow exponent
  let step := decimalExponent value - count + 1
  let scaled := value / tenPow step
  let floor := scaled.num.toNat / scaled.den
  let below : Decimal := ⟨floor, step⟩
  let above : Decimal := ⟨floor + 1, step⟩
  let fits (decimal : Decimal) : Bool := readsBackAs mantissa exponent decimal.toRat
  match fits below, fits above with
  | false, false => none
  | true, false => some below
  | false, true => some above
  | true, true => some ⟨roundRatio scaled, step⟩

/-- The shortest decimal that reads back as the positive value; seventeen digits suffice. -/
def shortest (mantissa : Nat) (exponent : Int) : Decimal :=
  match (List.range 17).findSome? fun index => nearestDecimal? mantissa exponent (index + 1) with
  | some decimal => decimal.trim 18
  | none => ⟨mantissa, exponent⟩

/-- A decimal magnitude laid out positionally or with an exponent. -/
def layout (decimal : Decimal) : Text :=
  let digits := Text.ofNat decimal.digits
  let pointAt := decimal.exponent + digits.length
  if -4 < pointAt && pointAt ≤ 16 then
    if pointAt ≤ 0 then
      Text.ofString "0." ++ List.replicate pointAt.natAbs (.ofChar '0') ++ digits
    else if digits.length ≤ pointAt.natAbs then
      digits ++ List.replicate (pointAt.natAbs - digits.length) (.ofChar '0') ++
        Text.ofString ".0"
    else digits.take pointAt.natAbs ++ Text.ofString "." ++ digits.drop pointAt.natAbs
  else
    let power := pointAt - 1
    let powerDigits := Text.ofNat power.natAbs
    let padding := List.replicate (2 - powerDigits.length) (CodePoint.ofChar '0')
    let fraction := digits.drop 1
    digits.take 1 ++ (if fraction.isEmpty then [] else Text.ofString "." ++ fraction) ++
      Text.ofString (if power < 0 then "e-" else "e+") ++ padding ++ powerDigits

/-- The text of a value. -/
def toText : Double → Text
  | .nan => "nan"
  | .infinite negative => if negative then "-inf" else "inf"
  | .finite negative mantissa exponent =>
      let magnitude : Text :=
        if mantissa = 0 then "0.0" else layout (shortest mantissa exponent)
      if negative then Text.ofString "-" ++ magnitude else magnitude

example : toText (.finite false 1 (-1074)) = Text.ofString "5e-324" := by decide +kernel

end Double

end Rulebook
