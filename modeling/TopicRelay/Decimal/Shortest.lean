/-
The shortest decimal that reads back as a given double, and its two written forms. Candidates are
the two neighbours of the value on the grid of `n` significant digits, for `n` from 1 to 17; the
first grid with a neighbour in the interval of reals that round to the double wins, and of two such
neighbours the nearer, a tie going to the even one.
-/
import TopicRelay.Decimal.Binary64

namespace TopicRelay.Decimal

open TopicRelay.Text

/-- The number `digits · 10^exponent`. -/
structure Numeral where
  digits : Nat
  exponent : Int
  deriving Repr, DecidableEq

namespace Numeral

/-- The number of decimal digits of `n`, 1 for zero. -/
def width (n : Nat) : Nat :=
  (decimal n).length

/-- The greatest `e` with `10^e ≤ num / den`, for positive `num` and `den`. -/
def decimalOrder (num den : Nat) : Int :=
  if den ≤ num then (width (num / den) : Int) - 1
  else -(width ((den + num - 1) / num - 1) : Int)

/-- Drops factors of ten from the digits, at most `fuel` of them. -/
def strip : Nat → Numeral → Numeral
  | 0, d => d
  | fuel + 1, d =>
    if d.digits ≠ 0 ∧ d.digits % 10 = 0 then strip fuel ⟨d.digits / 10, d.exponent + 1⟩ else d

end Numeral

namespace Magnitude

/-- Four times the bounds of the interval of reals that round to `x`, over `4 · denominator`, and
whether the bounds belong to it. -/
def interval (x : Magnitude) : Nat × Nat × Bool :=
  let step := twoTo x.exponent.toNat
  let below := if x.mantissa = twoTo 52 ∧ x.exponent ≠ leastExponent then step else 2 * step
  (4 * x.numerator - below, 4 * x.numerator + 2 * step, x.mantissa % 2 == 0)

/-- Whether `digits · 10^exponent` rounds to `x`. -/
def admits (x : Magnitude) (digits : Nat) (exponent : Int) : Bool :=
  let (low, high, closed) := x.interval
  let value := digits * tenTo exponent.toNat * (4 * x.denominator)
  let scale := tenTo (-exponent).toNat
  if closed then low * scale ≤ value && value ≤ high * scale
  else low * scale < value && value < high * scale

/-- The neighbours of `x` on the grid of multiples of `10^exponent`, below and above. -/
def neighbours (x : Magnitude) (exponent : Int) : Nat × Nat :=
  let q := (x.numerator * tenTo (-exponent).toNat) / (x.denominator * tenTo exponent.toNat)
  (q, q + 1)

/-- Whether the lower of two adjacent grid points is at least as near to `x` as the upper, a tie
going to the even one. -/
def lowerIsNearer (x : Magnitude) (q : Nat) (exponent : Int) : Bool :=
  let num := x.numerator * tenTo (-exponent).toNat
  let den := x.denominator * tenTo exponent.toNat
  let twice := 2 * num
  let middle := (2 * q + 1) * den
  twice < middle || (twice == middle && q % 2 == 0)

/-- The point of the grid of multiples of `10^exponent` that stands for `x`, if one does. -/
def onGrid? (x : Magnitude) (exponent : Int) : Option Numeral :=
  let (low, high) := x.neighbours exponent
  match x.admits low exponent, x.admits high exponent with
  | true, true => some ⟨if x.lowerIsNearer low exponent then low else high, exponent⟩
  | true, false => some ⟨low, exponent⟩
  | false, true => some ⟨high, exponent⟩
  | false, false => none

/-- The first grid that has a point for `x`, from the exponent `top` down by `steps`. -/
def search (x : Magnitude) (top : Int) : Nat → Numeral
  | 0 => ⟨(x.neighbours top).1, top⟩
  | steps + 1 =>
    match x.onGrid? top with
    | some d => d
    | none => search x (top - 1) steps

/-- The shortest decimal that reads back as `x`; its digits do not end in zero. -/
def shortest (x : Magnitude) : Numeral :=
  if x.mantissa = 0 then ⟨0, 0⟩
  else
    let order := Numeral.decimalOrder x.numerator x.denominator
    Numeral.strip 20 (search x order 17)

end Magnitude

namespace Numeral

/-- `n` zeros. -/
def zeros (n : Nat) : List Char :=
  List.replicate n '0'

/-- Positional notation, without a decimal point when the value is whole. -/
def positional (d : Numeral) : List Char :=
  let ds := decimal d.digits
  if 0 ≤ d.exponent then ds ++ zeros d.exponent.toNat
  else
    let places := (-d.exponent).toNat
    if places < ds.length then
      ds.take (ds.length - places) ++ '.' :: ds.drop (ds.length - places)
    else '0' :: '.' :: zeros (places - ds.length) ++ ds

/-- Positional notation with at least one digit after the decimal point. -/
def pointed (d : Numeral) : List Char :=
  if 0 ≤ d.exponent then d.positional ++ ['.', '0'] else d.positional

/-- The exponent of the leading digit. -/
def order (d : Numeral) : Int :=
  (width d.digits : Int) - 1 + d.exponent

/-- Scientific notation: one digit, further digits after a point, and a signed exponent. -/
def scientific (d : Numeral) : List Char :=
  let sign := if d.order < 0 then '-' else '+'
  let mantissa := match decimal d.digits with
    | [] => []
    | [c] => [c]
    | c :: r => c :: '.' :: r
  mantissa ++ 'e' :: sign :: decimal d.order.natAbs

end Numeral

namespace Binary64

/-- The sign in front of a numeral. -/
def signed (x : Binary64) (cs : List Char) : List Char :=
  if x.negative then '-' :: cs else cs

/-- Positional with a point from 1e-5 up to 1e16, scientific outside that range. -/
def text (x : Binary64) : List Char :=
  let d := x.magnitude.shortest
  x.signed <|
    if x.isZero || (-5 ≤ d.order && d.order < 16) then d.pointed else d.scientific

/-- Positional with a point, whatever the size. -/
def positionalText (x : Binary64) : List Char :=
  x.signed x.magnitude.shortest.pointed

end Binary64

end TopicRelay.Decimal
