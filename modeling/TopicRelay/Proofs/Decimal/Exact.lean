/-
Natural numbers that are doubles. Up to `2^53` rounding changes nothing, so the double nearest to a
natural number is that number.
-/
import TopicRelay.Decimal.Binary64

namespace TopicRelay.Decimal

theorem twoTo_zero : twoTo 0 = 1 :=
  rfl

theorem twoTo_add (m n : Nat) : twoTo (m + n) = twoTo m * twoTo n :=
  Nat.pow_add 2 m n

theorem twoTo_pos (n : Nat) : 0 < twoTo n :=
  Nat.two_pow_pos n

namespace Magnitude

theorem roundDiv_one (n : Nat) : roundDiv n 1 = n := by
  simp [roundDiv, Nat.mod_one]

theorem binaryOrder_one {n : Nat} (h : n ≠ 0) : binaryOrder n 1 = n.log2 := by
  have order : (n.log2 : Int) - (Nat.log2 1 : Nat) = n.log2 := Int.sub_zero _
  have below : twoTo n.log2 ≤ n := Nat.log2_self_le h
  unfold binaryOrder
  rw [order]
  dsimp only
  rw [Int.toNat_natCast, show (-(n.log2 : Int)).toNat = 0 by omega, twoTo_zero, Nat.one_mul, Nat.mul_one,
    if_pos below]

/-- A natural number of at most 53 bits is its own mantissa, shifted. -/
theorem ofNat?_of_lt {n : Nat} (pos : n ≠ 0) (h : n < twoTo 53) :
    ofNat? n = some ⟨n * twoTo (52 - n.log2), -((52 - n.log2 : Nat) : Int)⟩ := by
  have bits : n.log2 < 53 := (Nat.log2_lt pos).2 h
  have exponent : max ((n.log2 : Int) - 52) leastExponent = -((52 - n.log2 : Nat) : Int) := by
    unfold leastExponent
    omega
  have fits : n * twoTo (52 - n.log2) < twoTo 53 := by
    have above : n < twoTo (n.log2 + 1) := Nat.lt_log2_self
    have split : twoTo 53 = twoTo (n.log2 + 1) * twoTo (52 - n.log2) := by
      rw [← twoTo_add]
      exact congrArg twoTo (by omega)
    rw [split]
    exact Nat.mul_lt_mul_of_pos_right above (twoTo_pos _)
  rw [ofNat?, ofRatio?, if_neg pos, binaryOrder_one pos, exponent]
  dsimp only
  rw [Int.neg_neg, Int.toNat_natCast, show (-((52 - n.log2 : Nat) : Int)).toNat = 0 by omega, twoTo_zero,
    Nat.one_mul, roundDiv_one, if_neg (Nat.ne_of_lt fits), if_neg]
  dsimp only [greatestExponent]
  omega

/-- A natural number up to `2^53` is a double. -/
theorem exists_ofNat? {n : Nat} (h : n ≤ twoTo 53) :
    ∃ m, ofNat? n = some m ∧ m.numerator / m.denominator = n := by
  rcases Nat.lt_or_eq_of_le h with less | rfl
  · by_cases zero : n = 0
    · subst zero
      exact ⟨.zero, rfl, by rw [numerator, Magnitude.zero, Nat.zero_mul, Nat.zero_div]⟩
    · refine ⟨_, ofNat?_of_lt zero less, ?_⟩
      rw [numerator, denominator]
      dsimp only
      rw [Int.neg_neg, Int.toNat_natCast, show (-((52 - n.log2 : Nat) : Int)).toNat = 0 by omega,
        twoTo_zero, Nat.mul_one, Nat.mul_div_cancel _ (twoTo_pos _)]
  · exact ⟨⟨twoTo 52, 1⟩, by decide, by decide⟩

end Magnitude

end TopicRelay.Decimal
