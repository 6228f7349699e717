/-
Reading JSON numerals. An integer from `-2^63` up to `2^64 - 1` is exact. Any other numeral becomes
a double in two steps: its leading digits as far as they fit into 64 bits, rounded, then multiplied
with or divided by a power of ten, rounded again. Digits that no longer fit are dropped; those of
the integer part still count in the exponent. Minus zero is a double.
-/
import TopicRelay.Json.Value

namespace TopicRelay.Json

open TopicRelay.Decimal
open TopicRelay.Text

/-- The greatest number that the leading digits may make. -/
def significandLimit : Nat := twoTo 64 - 1

/-- The greatest absolute value of a written exponent that is taken into account. -/
def exponentLimit : Nat := twoTo 31 - 1

/-- Appends digits to a significand as long as they fit: the significand, and the digits left. -/
def takeDigits (significand : Nat) : List Char → Nat × List Char
  | [] => (significand, [])
  | c :: r =>
    let next := significand * 10 + (c.toNat - 48)
    if significandLimit < next then (significand, c :: r) else takeDigits next r

/-- Scales a magnitude by a power of ten in steps within the range of doubles; nothing when it
grows beyond that range. -/
def scale? : Nat → Magnitude → Int → Option Magnitude
  | 0, _, _ => some .zero
  | steps + 1, f, e =>
    if e.natAbs ≤ 308 then
      match Magnitude.powerOfTen? e.natAbs with
      | none => none
      | some p => if 0 ≤ e then f.mul? p else f.div? p
    else if f.mantissa = 0 then some f
    else if 0 ≤ e then none
    else
      match Magnitude.powerOfTen? 308 with
      | none => none
      | some p => match f.div? p with
        | none => none
        | some f => scale? steps f (e + 308)

/-- The double for `significand · 10^exponent`. -/
def floatOf? (negative : Bool) (significand : Nat) (exponent : Int) : Option Number := do
  let f ← Magnitude.ofNat? significand
  let m ← scale? 4 f exponent
  return .float ⟨negative, m⟩

/-- An exponent part: a sign and at least one digit; what follows it. -/
def readExponent? (cs : List Char) : Option (Bool × List Char × List Char) :=
  let (positive, cs) := match cs with
    | '+' :: r => (true, r)
    | '-' :: r => (false, r)
    | _ => (true, cs)
  let digits := cs.takeWhile Char.isDigit
  if digits.isEmpty then none else some (positive, digits, cs.dropWhile Char.isDigit)

/-- The number of a significand, an exponent from the position of its digits, and an exponent
part. -/
def scaledNumber? (negative : Bool) (significand : Nat) (shift : Int) (positive : Bool)
    (digits : List Char) : Option Number :=
  let e := digitsValue 0 digits
  if exponentLimit < e then
    if positive && significand != 0 then none else some (.float ⟨negative, .zero⟩)
  else floatOf? negative significand (if positive then shift + e else shift - e)

/-- The digits before the decimal point: at least one, and no zero in front of others. -/
def readWhole? (cs : List Char) : Option (List Char × List Char) :=
  let digits := cs.takeWhile Char.isDigit
  match digits with
  | [] => none
  | '0' :: _ :: _ => none
  | _ => some (digits, cs.dropWhile Char.isDigit)

/-- Reads a numeral without its sign; what follows it. -/
def readUnsigned? (negative : Bool) (cs : List Char) : Option (Number × List Char) := do
  let (whole, rest) ← readWhole? cs
  let (significand, dropped) := takeDigits 0 whole
  let (significand, shift, rest, isWhole) ← match rest with
    | '.' :: r =>
      let digits := r.takeWhile Char.isDigit
      if digits.isEmpty then none
      else
        let (s, left) := takeDigits significand digits
        some (s, (dropped.length : Int) - (digits.length - left.length : Nat),
          r.dropWhile Char.isDigit, false)
    | r => some (significand, (dropped.length : Int), r, true)
  match rest with
  | 'e' :: r | 'E' :: r =>
    let (positive, digits, rest) ← readExponent? r
    let n ← scaledNumber? negative significand shift positive digits
    return (n, rest)
  | rest =>
    if isWhole && dropped.isEmpty then
      let n : Int := if negative then -(significand : Int) else significand
      if negative && (significand == 0 || n < leastInteger) then
        let x ← floatOf? negative significand 0
        return (x, rest)
      else return (.integer n, rest)
    else
      let x ← floatOf? negative significand shift
      return (x, rest)

/-- Reads a numeral; what follows it. -/
def readNumber? : List Char → Option (Number × List Char)
  | '-' :: r => readUnsigned? true r
  | cs => readUnsigned? false cs

end TopicRelay.Json
