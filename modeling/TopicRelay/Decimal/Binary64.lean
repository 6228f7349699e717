/-
Finite IEEE 754 doubles as exact dyadic numbers, with rounding to nearest, ties to even, in exact
natural arithmetic. Every operation that rounds goes through `Magnitude.ofRatio`, so a sum of digits,
a product with a power of ten and a numeral read in one go differ only in where they round.
-/
import TopicRelay.Decimal.Power
import TopicRelay.Text.Digits

namespace TopicRelay.Decimal

/-- The non-negative number `mantissa · 2^exponent`. A value that `ofRatio` returns has
`mantissa < 2^53` and `exponent ≥ -1074`, and `mantissa ≥ 2^52` unless `exponent = -1074`. -/
structure Magnitude where
  mantissa : Nat
  exponent : Int
  deriving Repr, DecidableEq

namespace Magnitude

/-- The least exponent of a double. -/
def leastExponent : Int := -1074

/-- The greatest exponent of a double. -/
def greatestExponent : Int := 971

def zero : Magnitude := ⟨0, leastExponent⟩

/-- The numerator of the value. -/
def numerator (x : Magnitude) : Nat :=
  x.mantissa * twoTo x.exponent.toNat

/-- The denominator of the value. -/
def denominator (x : Magnitude) : Nat :=
  twoTo (-x.exponent).toNat

/-- The greatest `e` with `2^e ≤ num / den`, for positive `num` and `den`. -/
def binaryOrder (num den : Nat) : Int :=
  let e : Int := (num.log2 : Int) - den.log2
  if den * twoTo e.toNat ≤ num * twoTo (-e).toNat then e else e - 1

/-- The quotient rounded to the nearest natural number, a tie to the even one. -/
def roundDiv (num den : Nat) : Nat :=
  let q := num / den
  let r := num % den
  if den < 2 * r || (2 * r == den && q % 2 == 1) then q + 1 else q

/-- The double nearest to `num / den`, or nothing when it lies above the greatest one. -/
def ofRatio? (num den : Nat) : Option Magnitude :=
  if num = 0 then some zero
  else
    let e := max (binaryOrder num den - 52) leastExponent
    let m := roundDiv (num * twoTo (-e).toNat) (den * twoTo e.toNat)
    let x : Magnitude := if m = twoTo 53 then ⟨twoTo 52, e + 1⟩ else ⟨m, e⟩
    if greatestExponent < x.exponent then none else some x

/-- The double nearest to a natural number. -/
def ofNat? (n : Nat) : Option Magnitude :=
  ofRatio? n 1

/-- The rounded product. -/
def mul? (x y : Magnitude) : Option Magnitude :=
  ofRatio? (x.numerator * y.numerator) (x.denominator * y.denominator)

/-- The rounded quotient; `y` must not be zero. -/
def div? (x y : Magnitude) : Option Magnitude :=
  ofRatio? (x.numerator * y.denominator) (x.denominator * y.numerator)

/-- The double nearest to `10^n`, for `n ≤ 308`. -/
def powerOfTen? (n : Nat) : Option Magnitude :=
  ofRatio? (tenTo n) 1

/-- The double nearest to `significand · 10^exponent`. -/
def ofDecimal? (significand : Nat) (exponent : Int) : Option Magnitude :=
  if significand = 0 then some zero
  else if exponent < -(significand.log2 + 1100 : Int) then some zero
  else if exponent > 400 then none
  else ofRatio? (significand * tenTo exponent.toNat) (tenTo (-exponent).toNat)

end Magnitude

/-- A finite double. -/
structure Binary64 where
  negative : Bool
  magnitude : Magnitude
  deriving Repr, DecidableEq

namespace Binary64

/-- Whether the value is zero, of either sign. -/
def isZero (x : Binary64) : Bool :=
  x.magnitude.mantissa == 0

/-- The greatest natural number not above the absolute value. -/
def floorAbs (x : Binary64) : Nat :=
  x.magnitude.numerator / x.magnitude.denominator

end Binary64

end TopicRelay.Decimal
