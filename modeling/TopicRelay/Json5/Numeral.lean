/-
Numerals of JSON5: their extent, and what they mean to a reader that takes any value and to one that
takes an unsigned integer. The latter reads every numeral as a double and drops the fraction; a
number below zero or not a number becomes zero, one above the range the greatest of the range.
-/
import TopicRelay.Decimal.Shortest
import TopicRelay.Json5.Quoted

namespace TopicRelay.Json5

open TopicRelay.Decimal
open TopicRelay.Text

/-! ## Extent -/

/-- Splits off the decimal digits in front. -/
def spanDigits (cs : List Char) : List Char × List Char :=
  (cs.takeWhile Char.isDigit, cs.dropWhile Char.isDigit)

/-- An exponent part, empty if there is none; what follows it. -/
def spanExponent (cs : List Char) : List Char × List Char :=
  match cs with
  | e :: r =>
    if e == 'e' || e == 'E' then
      let (sign, r) := match r with
        | '+' :: r => (['+'], r)
        | '-' :: r => (['-'], r)
        | r => ([], r)
      let (digits, rest) := spanDigits r
      if digits.isEmpty then ([], cs) else (e :: sign ++ digits, rest)
    else ([], cs)
  | [] => ([], [])

/-- The digits of a whole number: zero alone, or digits that do not start with it. -/
def spanWhole? (cs : List Char) : Option (List Char × List Char) :=
  match cs with
  | '0' :: r => some (['0'], r)
  | _ =>
    let (digits, rest) := spanDigits cs
    if digits.isEmpty then none else some (digits, rest)

/-- A decimal numeral without sign; what follows it. -/
def spanDecimal? (cs : List Char) : Option (List Char × List Char) :=
  match spanWhole? cs with
  | some (whole, '.' :: r) =>
    let (fraction, r) := spanDigits r
    let (exponent, r) := spanExponent r
    some (whole ++ '.' :: fraction ++ exponent, r)
  | some (whole, r) =>
    let (exponent, r) := spanExponent r
    some (whole ++ exponent, r)
  | none =>
    match cs with
    | '.' :: r =>
      let (fraction, r) := spanDigits r
      if fraction.isEmpty then none
      else
        let (exponent, r) := spanExponent r
        some ('.' :: fraction ++ exponent, r)
    | _ => none

/-- Expects the letters of a word; what follows them. -/
def expect? : List Char → List Char → Option (List Char)
  | [], cs => some cs
  | w :: ws, c :: cs => if w == c then expect? ws cs else none
  | _ :: _, [] => none

/-- A numeral without sign; what follows it. -/
def spanUnsigned? (cs : List Char) : Option (List Char × List Char) :=
  let hex := match cs with
    | '0' :: x :: r =>
      if x == 'x' || x == 'X' then
        let digits := r.takeWhile fun c => (hexValue? c).isSome
        if digits.isEmpty then none
        else some ('0' :: x :: digits, r.dropWhile fun c => (hexValue? c).isSome)
      else none
    | _ => none
  match hex with
  | some found => some found
  | none =>
    match spanDecimal? cs with
    | some found => some found
    | none =>
      match expect? "Infinity".toList cs with
      | some r => some ("Infinity".toList, r)
      | none => (expect? "NaN".toList cs).map fun r => ("NaN".toList, r)

/-- A numeral; what follows it. -/
def spanNumeral? (cs : List Char) : Option (List Char × List Char) :=
  match cs with
  | '+' :: r => (spanUnsigned? r).map fun (n, r) => ('+' :: n, r)
  | '-' :: r => (spanUnsigned? r).map fun (n, r) => ('-' :: n, r)
  | _ => spanUnsigned? cs

/-! ## Meaning -/

/-- A double, or one of the three values without a numeral of their own. -/
inductive Real where
  | finite (x : Binary64)
  | infinite (negative : Bool)
  | notANumber
  deriving Repr, DecidableEq

/-- Why a numeral has no value. -/
inductive NumeralFault where
  /-- Not a number at all, or a signed hexadecimal one. -/
  | number
  /-- Beyond the range of doubles. -/
  | tooLarge
  /-- A hexadecimal numeral of more than 32 bits. -/
  | hexadecimal
  /-- An integer of more than 64 bits. -/
  | integer
  deriving Repr, DecidableEq

/-- The text of a fault. -/
def NumeralFault.message : NumeralFault → String
  | .number => "error parsing number"
  | .tooLarge => "error parsing number: too large"
  | .hexadecimal => "error parsing hex"
  | .integer => "error parsing integer"

/-- The digits of an unsigned hexadecimal numeral. -/
def hexDigits? : List Char → Option (List Char)
  | '0' :: x :: c :: r => if x == 'x' || x == 'X' then some (c :: r) else none
  | _ => none

/-- The value of hexadecimal digits, of at most 32 bits. -/
def hexValue32? (digits : List Char) : Except NumeralFault Nat :=
  match hexNumber? digits with
  | some n => if n < twoTo 32 then .ok n else .error .hexadecimal
  | none => .error .hexadecimal

/-- Splits a sign off a numeral: whether it is a minus, and the rest. -/
def splitSign : List Char → Bool × List Char
  | '-' :: r => (true, r)
  | '+' :: r => (false, r)
  | cs => (false, cs)

/-- The double of an unsigned decimal numeral. -/
def decimalReal (negative : Bool) (cs : List Char) : Except NumeralFault Real :=
  let (whole, r) := spanDigits cs
  let (fraction, r) := match r with
    | '.' :: r => spanDigits r
    | r => ([], r)
  let exponent : Option Int := match r with
    | [] => some 0
    | c :: r =>
      let (minus, digits) := splitSign r
      if !(c == 'e' || c == 'E') || digits.isEmpty || !digits.all Char.isDigit then none
      else some (if minus then -(digitsValue 0 digits : Int) else digitsValue 0 digits)
  match exponent, whole ++ fraction with
  | none, _ => .error .number
  | some _, [] => .error .number
  | some e, digits =>
    match Magnitude.ofDecimal? (digitsValue 0 digits) (e - fraction.length) with
    | some m => .ok (.finite ⟨negative, m⟩)
    | none => .error .tooLarge

/-- The double that a numeral stands for. -/
def realOf (cs : List Char) : Except NumeralFault Real :=
  let s := String.ofList cs
  if s == "Infinity" then .ok (.infinite false)
  else if s == "-Infinity" then .ok (.infinite true)
  else if s == "NaN" || s == "-NaN" then .ok .notANumber
  else if s == "+Infinity" || s == "+NaN" then .error .tooLarge
  else
    match hexDigits? cs with
    | some digits => do
      let n ← hexValue32? digits
      match Magnitude.ofNat? n with
      | some m => .ok (.finite ⟨false, m⟩)
      | none => .error .tooLarge
    | none =>
      let (negative, r) := splitSign cs
      decimalReal negative r

/-- The integer that a numeral stands for. -/
def integerOf (cs : List Char) : Except NumeralFault Int :=
  match hexDigits? cs with
  | some digits => (hexValue32? digits).map Int.ofNat
  | none =>
    let (negative, r) := splitSign cs
    if r.isEmpty || !r.all Char.isDigit then .error .integer
    else
      let n : Int := if negative then -(digitsValue 0 r : Int) else digitsValue 0 r
      if -(twoTo 63 : Int) ≤ n && n < twoTo 63 then .ok n else .error .integer

/-- Whether a numeral is read as an integer where any value may stand. -/
def isIntegral (cs : List Char) : Bool :=
  let s := String.ofList cs
  !cs.contains '.' && ((hexDigits? cs).isSome || (!cs.contains 'e' && !cs.contains 'E'))
    && s != "Infinity" && s != "-Infinity" && s != "NaN" && s != "-NaN"

/-- The text of a double in messages. -/
def Real.text : Real → List Char
  | .finite x => x.positionalText
  | .infinite false => "inf".toList
  | .infinite true => "-inf".toList
  | .notANumber => "NaN".toList

/-- The unsigned integer of `bits` bits nearest to a double towards zero. -/
def Real.saturate (bits : Nat) : Real → Nat
  | .finite x => if x.negative then 0 else min x.floorAbs (twoTo bits - 1)
  | .infinite false => twoTo bits - 1
  | .infinite true => 0
  | .notANumber => 0

/-- The unsigned integer of `bits` bits that a numeral gives. -/
def unsignedOf (bits : Nat) (cs : List Char) : Except NumeralFault Nat :=
  (realOf cs).map (Real.saturate bits)

end TopicRelay.Json5
