/-!
# Binary floating-point numbers

Numbers of rule documents that are not whole are binary64 values.  They are kept as exact data,
so that reading, comparing and showing them are computations on natural numbers: a finite value
is a signed multiple of a power of two, and rounding chooses the nearest such multiple, the even
one of two that are equally near.
-/

namespace Rulebook

/-- A binary64 value. -/
inductive Double where
  | nan
  | infinite (negative : Bool)
  /-- The value `mantissa * 2 ^ exponent` with a sign; the mantissa stays below `2 ^ 53`, and it
  is at least `2 ^ 52` unless the exponent is `-1074`, the least one. -/
  | finite (negative : Bool) (mantissa : Nat) (exponent : Int)
  deriving DecidableEq, Repr, Inhabited

/-- Two to a whole power. -/
def twoPow (exponent : Int) : Rat :=
  if 0 ≤ exponent then (Nat.pow 2 exponent.toNat : Rat)
  else 1 / (Nat.pow 2 (-exponent).toNat : Rat)

/-- Ten to a whole power. -/
def tenPow (exponent : Int) : Rat :=
  if 0 ≤ exponent then (Nat.pow 10 exponent.toNat : Rat)
  else 1 / (Nat.pow 10 (-exponent).toNat : Rat)

/-- The natural number nearest to a nonnegative ratio; a tie goes to the even neighbour. -/
def roundRatio (ratio : Rat) : Nat :=
  let numerator := ratio.num.toNat
  let quotient := numerator / ratio.den
  let remainder := numerator % ratio.den
  if 2 * remainder < ratio.den then quotient
  else if ratio.den < 2 * remainder then quotient + 1
  else if quotient % 2 = 0 then quotient
  else quotient + 1

namespace Double

/-- The least exponent of a finite value. -/
def minExponent : Int := -1074

/-- The greatest exponent of a finite value. -/
def maxExponent : Int := 971

/-- The least mantissa of a value whose exponent is not the least one: two to the power of 52. -/
def leastMantissa : Nat := 0x10000000000000

/-- Zero with a sign. -/
def zero (negative : Bool) : Double := .finite negative 0 minExponent

/-- The exponent of the greatest power of two that is at most a positive ratio. -/
def binaryExponent (ratio : Rat) : Int :=
  let guess : Int := (Nat.log2 ratio.num.toNat : Int) - Nat.log2 ratio.den
  if twoPow guess ≤ ratio then guess else guess - 1

/-- The value nearest to a nonnegative ratio with a sign; the even mantissa wins a tie, and a
ratio that rounds beyond the greatest finite value becomes an infinity. -/
def ofMagnitude (negative : Bool) (ratio : Rat) : Double :=
  if ratio ≤ 0 then zero negative
  else
    let exponent := max (binaryExponent ratio - 52) minExponent
    let mantissa := roundRatio (ratio / twoPow exponent)
    let carried := mantissa = 2 * leastMantissa
    let mantissa := if carried then leastMantissa else mantissa
    let exponent := if carried then exponent + 1 else exponent
    if maxExponent < exponent then .infinite negative
    else .finite negative mantissa exponent

/-- The value nearest to a ratio; zero is positive. -/
def ofRat (ratio : Rat) : Double :=
  if ratio < 0 then ofMagnitude true (-ratio) else ofMagnitude false ratio

/-- The exact value of a finite number. -/
def toRat? : Double → Option Rat
  | .finite negative mantissa exponent =>
      let magnitude := (mantissa : Rat) * twoPow exponent
      some (if negative then -magnitude else magnitude)
  | _ => none

/-- The value nearest to `digits * 10 ^ exponent` with a sign.  Exponents far outside the range
are settled without forming the power. -/
def ofDecimal (negative : Bool) (digits : Nat) (exponent : Int) : Double :=
  if digits = 0 then zero negative
  else
    let order := exponent + (Nat.toDigits 10 digits).length
    if 310 < order then .infinite negative
    else if order < -330 then zero negative
    else ofMagnitude negative (digits * tenPow exponent)

/-- The least magnitude of a whole number that rounds beyond the greatest finite value. -/
def wholeRange : Nat := Nat.pow 2 1024 - Nat.pow 2 970

/-- The whole number rounds to a finite value. -/
def holds (value : Int) : Bool := value.natAbs < wholeRange

/-- The value is not a number. -/
def isNaN : Double → Bool
  | .nan => true
  | _ => false

/-- The value is a zero of either sign. -/
def isZero : Double → Bool
  | .finite _ mantissa _ => mantissa = 0
  | _ => false

/-- The value has a finite magnitude. -/
def isFinite : Double → Bool
  | .finite .. => true
  | _ => false

/-- The value one larger, rounded. -/
def addOne (double : Double) : Double :=
  match double.toRat? with
  | some ratio => ofRat (ratio + 1)
  | none => double

/-- The rounded sum of two values; infinities of opposite signs have none. -/
def add (left right : Double) : Double :=
  match left.toRat?, right.toRat? with
  | some left, some right => ofRat (left + right)
  | some _, none => right
  | none, some _ => left
  | none, none => if left = right then left else .nan

/-- The value rounded to two decimal places, ties going to the even last digit. -/
def roundToHundredths : Double → Double
  | .finite negative mantissa exponent =>
      ofMagnitude negative (roundRatio ((mantissa : Rat) * twoPow exponent * 100) / 100)
  | other => other

end Double

/-- A number of a rule document: whole, or a binary64 value. -/
inductive Number where
  /-- A whole number of any size. -/
  | whole (value : Int)
  | double (value : Double)
  deriving DecidableEq

namespace Number

/-- A point of the number line closed by its two infinities. -/
inductive Point where
  /-- Below every number. -/
  | bottom
  /-- An exact number. -/
  | exact (value : Rat)
  /-- Above every number. -/
  | top

/-- The order of the closed number line. -/
def Point.lt : Point → Point → Bool
  | .bottom, .bottom => false
  | .bottom, _ => true
  | .exact left, .exact right => left < right
  | .exact _, .top => true
  | _, _ => false

/-- Where a number lies, unless it is not a number. -/
def point? : Number → Option Point
  | .whole value => some (.exact value)
  | .double .nan => none
  | .double (.infinite negative) => some (if negative then .bottom else .top)
  | .double value => value.toRat?.map .exact

/-- The left number is less than the right one; nothing compares with a value that is not a
number. -/
def lt (left right : Number) : Bool :=
  match left.point?, right.point? with
  | some left, some right => left.lt right
  | _, _ => false

/-- The two numbers lie at the same point. -/
def same (left right : Number) : Bool :=
  match left.point?, right.point? with
  | some left, some right => !left.lt right && !right.lt left
  | _, _ => false

/-- The number one larger. -/
def addOne : Number → Number
  | .whole value => .whole (value + 1)
  | .double value => .double value.addOne

@[simp]
theorem whole_lt_whole (left right : Int) :
    (whole left).lt (whole right) = decide (left < right) := by
  simp only [lt, point?, Point.lt]
  exact decide_eq_decide.mpr Rat.intCast_lt_intCast

@[simp]
theorem addOne_whole (value : Int) : (whole value).addOne = whole (value + 1) := rfl

end Number

end Rulebook
