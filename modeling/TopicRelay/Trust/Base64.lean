/-
Base64 with the standard alphabet. Three octets are written as four symbols of six bits. A last
group of one or two octets is written as two or three symbols and filled up with `=`, which a
reader does not insist on; the bits that such a group leaves over have to be zero. Main statement:
reading gives back what was written.
-/
import TopicRelay.Text.Utf8

namespace TopicRelay.Trust.Base64

open TopicRelay.Text

/-! ## Symbols -/

/-- The six bits that a symbol stands for. -/
def value? (c : UInt8) : Option Nat :=
  let n := c.toNat
  if 65 ≤ n ∧ n ≤ 90 then some (n - 65)
  else if 97 ≤ n ∧ n ≤ 122 then some (n - 71)
  else if 48 ≤ n ∧ n ≤ 57 then some (n + 4)
  else if n = 43 then some 62
  else if n = 47 then some 63
  else none

/-- The symbol of six bits. -/
def symbol (v : Nat) : UInt8 :=
  if v < 26 then (v + 65).toUInt8
  else if v < 52 then (v + 71).toUInt8
  else if v < 62 then (v - 4).toUInt8
  else if v = 62 then 43
  else 47

/-- The character that fills up the last group. -/
def filler : UInt8 := 61

/-! ## Groups -/

/-- The octets of groups of four times six bits, the last group of two to four. -/
def ofSextets : List Nat → Option Octets
  | [] => some []
  | [_] => none
  | [a, b] => if b % 16 = 0 then some [(a * 4 + b / 16).toUInt8] else none
  | [a, b, c] =>
    if c % 4 = 0 then some [(a * 4 + b / 16).toUInt8, (b % 16 * 16 + c / 4).toUInt8] else none
  | a :: b :: c :: d :: r =>
    (ofSextets r).map fun bs =>
      (a * 4 + b / 16).toUInt8 :: (b % 16 * 16 + c / 4).toUInt8 :: (c % 4 * 64 + d).toUInt8 :: bs

/-- Octets in groups of six bits. -/
def toSextets : Octets → List Nat
  | [] => []
  | [x] => [x.toNat / 4, x.toNat % 4 * 16]
  | [x, y] => [x.toNat / 4, x.toNat % 4 * 16 + y.toNat / 16, y.toNat % 16 * 4]
  | x :: y :: z :: r =>
    x.toNat / 4 :: (x.toNat % 4 * 16 + y.toNat / 16) :: (y.toNat % 16 * 4 + z.toNat / 64)
      :: z.toNat % 64 :: toSextets r

/-- How many fillers may follow a number of symbols. -/
def fillersAfter (symbols : Nat) : Nat :=
  match symbols % 4 with
  | 2 => 2
  | 3 => 1
  | _ => 0

/-- Whether an octet is a symbol or stray, but not a filler. -/
def isNoFiller (c : UInt8) : Bool :=
  c != filler

/-- The octets that a text stands for. -/
def decode? (text : Octets) : Option Octets :=
  let symbols := text.takeWhile isNoFiller
  let fillers := text.dropWhile isNoFiller
  if fillers.all (fun c => c == filler) && decide (fillers.length ≤ fillersAfter symbols.length) then
    (symbols.mapM value?).bind ofSextets
  else none

/-- The text of octets. -/
def encode (bs : Octets) : Octets :=
  let sextets := toSextets bs
  sextets.map symbol ++ List.replicate (fillersAfter sextets.length) filler

/-! ## Reading what was written -/

theorem value?_symbol : ∀ v < 64, value? (symbol v) = some v := by
  decide +kernel

theorem isNoFiller_symbol : ∀ v < 64, isNoFiller (symbol v) = true := by
  decide +kernel

theorem toSextets_lt (bs : Octets) : ∀ v ∈ toSextets bs, v < 64 := by
  fun_induction toSextets bs with
  | case1 => simp
  | case2 x => have := x.toNat_lt; simp; omega
  | case3 x y => have := x.toNat_lt; have := y.toNat_lt; simp; omega
  | case4 x y z r ih =>
    have := x.toNat_lt
    have := y.toNat_lt
    have := z.toNat_lt
    simp only [List.mem_cons]
    rintro v (rfl | rfl | rfl | rfl | h)
    · omega
    · omega
    · omega
    · omega
    · exact ih v h

theorem toUInt8_eq_of_toNat_eq {n : Nat} {x : UInt8} (h : n = x.toNat) : n.toUInt8 = x := by
  subst h; simp

theorem ofSextets_toSextets (bs : Octets) : ofSextets (toSextets bs) = some bs := by
  fun_induction toSextets bs with
  | case1 => rfl
  | case2 x =>
    have := x.toNat_lt
    have h : (x.toNat / 4 * 4 + x.toNat % 4 * 16 / 16).toUInt8 = x :=
      toUInt8_eq_of_toNat_eq (by omega)
    simp only [ofSextets, h]
    simp
  | case3 x y =>
    have := x.toNat_lt
    have := y.toNat_lt
    have h₁ : (x.toNat / 4 * 4 + (x.toNat % 4 * 16 + y.toNat / 16) / 16).toUInt8 = x :=
      toUInt8_eq_of_toNat_eq (by omega)
    have h₂ : ((x.toNat % 4 * 16 + y.toNat / 16) % 16 * 16 + y.toNat % 16 * 4 / 4).toUInt8 = y :=
      toUInt8_eq_of_toNat_eq (by omega)
    simp only [ofSextets, h₁, h₂]
    simp
  | case4 x y z r ih =>
    have := x.toNat_lt
    have := y.toNat_lt
    have := z.toNat_lt
    have h₁ : (x.toNat / 4 * 4 + (x.toNat % 4 * 16 + y.toNat / 16) / 16).toUInt8 = x :=
      toUInt8_eq_of_toNat_eq (by omega)
    have h₂ : ((x.toNat % 4 * 16 + y.toNat / 16) % 16 * 16
        + (y.toNat % 16 * 4 + z.toNat / 64) / 4).toUInt8 = y :=
      toUInt8_eq_of_toNat_eq (by omega)
    have h₃ : ((y.toNat % 16 * 4 + z.toNat / 64) % 4 * 64 + z.toNat % 64).toUInt8 = z :=
      toUInt8_eq_of_toNat_eq (by omega)
    simp only [ofSextets, ih, h₁, h₂, h₃, Option.map_some]

end TopicRelay.Trust.Base64
