/-
Numerals: the decimal text of a natural number or an integer, and the lower-case hexadecimal one.
-/

namespace TopicRelay.Text

/-- The character of a digit below 16, in lower case. -/
def digitChar (n : Nat) : Char :=
  if n < 10 then Char.ofNat (48 + n) else Char.ofNat (87 + n)

/-- The value of a hexadecimal digit of either case. -/
def hexValue? (c : Char) : Option Nat :=
  let n := c.toNat
  if 48 ≤ n && n ≤ 57 then some (n - 48)
  else if 97 ≤ n && n ≤ 102 then some (n - 87)
  else if 65 ≤ n && n ≤ 70 then some (n - 55)
  else none

/-- The digits of `n` to the base `b ≥ 2` in front of `acc`, most significant first. -/
def digitsOnto (b : Nat) (n : Nat) (acc : List Char) : List Char :=
  if _h : n < b ∨ b < 2 then digitChar n :: acc
  else digitsOnto b (n / b) (digitChar (n % b) :: acc)
termination_by n
decreasing_by exact Nat.div_lt_self (by omega) (by omega)

/-- The decimal numeral of a natural number. -/
def decimal (n : Nat) : List Char :=
  digitsOnto 10 n []

/-- The lower-case hexadecimal numeral of a natural number. -/
def hexadecimal (n : Nat) : List Char :=
  digitsOnto 16 n []

/-- The decimal numeral of an integer, with a minus sign in front of a negative one. -/
def integer : Int → List Char
  | .ofNat n => decimal n
  | .negSucc n => '-' :: decimal (n + 1)

/-- The number that a list of decimal digits writes, read onto `acc`. -/
def digitsValue (acc : Nat) : List Char → Nat
  | [] => acc
  | c :: r => digitsValue (acc * 10 + (c.toNat - 48)) r

/-- The decimal text of a natural number. -/
def ofNat (n : Nat) : String :=
  String.ofList (decimal n)

end TopicRelay.Text
