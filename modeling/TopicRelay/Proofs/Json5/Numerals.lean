/-
Decimal numerals in JSON5. The numeral of a natural number extends to the next delimiter, and an
unsigned integer is read from it by way of a double, so exactly up to `2^53`.
-/
import TopicRelay.Json5.Numeral
import TopicRelay.Proofs.Decimal.Exact
import TopicRelay.Proofs.Json.Numerals

namespace TopicRelay.Json5

open TopicRelay.Decimal TopicRelay.Text
open TopicRelay.Json (Delimited takeWhile_append_of_head dropWhile_append_of_head)

variable {rest : List Char}

/-! ## Extent -/

theorem spanDigits_append {cs : List Char} (digits : ∀ c ∈ cs, c.isDigit = true)
    (stop : ∀ c ∈ rest.head?, c.isDigit = false) : spanDigits (cs ++ rest) = (cs, rest) := by
  rw [spanDigits, takeWhile_append_of_head digits stop, dropWhile_append_of_head digits stop]

theorem spanExponent_of_delimited (ends : Delimited rest) : spanExponent rest = ([], rest) := by
  cases rest with
  | nil => rfl
  | cons c rest =>
    have := ends c rfl
    simp only [List.mem_cons, List.not_mem_nil, or_false] at this
    rcases this with rfl | rfl | rfl <;> rfl

theorem spanWhole?_decimal (n : Nat) (ends : Delimited rest) :
    spanWhole? (decimal n ++ rest) = some (decimal n, rest) := by
  by_cases zero : n = 0
  · subst zero
    rw [decimal_of_lt (by decide)]
    rfl
  · have span := spanDigits_append (fun c => isDigit_of_mem_decimal (n := n)) ends.not_isDigit
    obtain ⟨c, r, written, first⟩ := head_decimal zero
    rw [written, List.cons_append] at span ⊢
    unfold spanWhole?
    split
    · rename_i h
      exact absurd (List.cons.inj h).1 first
    · rw [span]
      rfl

theorem spanDecimal?_decimal (n : Nat) (ends : Delimited rest) :
    spanDecimal? (decimal n ++ rest) = some (decimal n, rest) := by
  unfold spanDecimal?
  rw [spanWhole?_decimal n ends]
  split
  · rename_i h
    cases h
    exact absurd (ends '.' rfl) (by decide)
  · rename_i h
    cases h
    rw [spanExponent_of_delimited ends]
    simp
  · rename_i h
    cases h

/-- A numeral of a natural number is not hexadecimal. -/
theorem decimal_eq_zero_or (n : Nat) :
    decimal n = ['0'] ∨ ∃ c r, decimal n = c :: r ∧ c ≠ '0' ∧ c.isDigit = true := by
  by_cases zero : n = 0
  · subst zero
    exact .inl (decimal_of_lt (by decide))
  · obtain ⟨c, r, written, first⟩ := head_decimal zero
    exact .inr ⟨c, r, written, first, isDigit_of_mem_decimal (n := n) (written ▸ List.mem_cons_self)⟩

theorem spanUnsigned?_decimal (n : Nat) (ends : Delimited rest) :
    spanUnsigned? (decimal n ++ rest) = some (decimal n, rest) := by
  have span := spanDecimal?_decimal n ends
  unfold spanUnsigned?
  dsimp only
  rw [span]
  rcases decimal_eq_zero_or n with written | ⟨c, r, written, first, -⟩
  · rw [written]
    cases rest with
    | nil => rfl
    | cons c rest =>
      have := ends c rfl
      simp only [List.mem_cons, List.not_mem_nil, or_false] at this
      rcases this with rfl | rfl | rfl <;> rfl
  · rw [written, List.cons_append]
    split
    · rename_i found hex
      split at hex
      · rename_i h
        exact absurd (List.cons.inj h).1 first
      · cases hex
    · rfl

theorem spanNumeral?_decimal (n : Nat) (ends : Delimited rest) :
    spanNumeral? (decimal n ++ rest) = some (decimal n, rest) := by
  have span := spanUnsigned?_decimal n ends
  obtain ⟨c, r, written, digit⟩ := exists_decimal_eq_cons n
  rw [written, List.cons_append] at span ⊢
  unfold spanNumeral?
  split
  · rename_i h
    obtain ⟨rfl, -⟩ := List.cons.inj h
    cases digit
  · rename_i h
    obtain ⟨rfl, -⟩ := List.cons.inj h
    cases digit
  · exact span

/-! ## Meaning -/

theorem ofList_decimal_beq (n : Nat) {w : String} (h : ∃ c ∈ w.toList, c.isDigit = false) :
    (String.ofList (decimal n) == w) = false := by
  rw [Bool.eq_false_iff, Ne, beq_iff_eq]
  rintro rfl
  obtain ⟨c, hc, other⟩ := h
  rw [String.toList_ofList] at hc
  rw [isDigit_of_mem_decimal hc] at other
  cases other

theorem hexDigits?_decimal (n : Nat) : hexDigits? (decimal n) = none := by
  rcases decimal_eq_zero_or n with written | ⟨c, r, written, first, -⟩
  · rw [written]
    rfl
  · rw [written]
    unfold hexDigits?
    split
    · rename_i h
      exact absurd (List.cons.inj h).1 first
    · rfl

theorem splitSign_decimal (n : Nat) : splitSign (decimal n) = (false, decimal n) := by
  obtain ⟨c, r, written, digit⟩ := exists_decimal_eq_cons n
  rw [written]
  unfold splitSign
  split
  · rename_i h
    obtain ⟨rfl, -⟩ := List.cons.inj h
    cases digit
  · rename_i h
    obtain ⟨rfl, -⟩ := List.cons.inj h
    cases digit
  · rfl

theorem ofDecimal?_zero (n : Nat) : Magnitude.ofDecimal? n 0 = Magnitude.ofNat? n := by
  unfold Magnitude.ofDecimal?
  split
  · rename_i zero
    rw [zero]
    rfl
  · rw [if_neg (by omega), if_neg (by decide)]
    exact congrArg (Magnitude.ofRatio? · 1) (Nat.mul_one n)

/-- The double of a numeral without a point is the one nearest to its number. -/
theorem decimalReal_decimal {n : Nat} {m : Magnitude} (h : Magnitude.ofNat? n = some m)
    (negative : Bool) : decimalReal negative (decimal n) = .ok (.finite ⟨negative, m⟩) := by
  have span : spanDigits (decimal n ++ []) = (decimal n, []) :=
    spanDigits_append (fun c => isDigit_of_mem_decimal) nofun
  rw [List.append_nil] at span
  obtain ⟨c, r, written, digit⟩ := exists_decimal_eq_cons n
  have value : Magnitude.ofDecimal? (digitsValue 0 (c :: r)) 0 = some m := by
    rw [← written, digitsValue_decimal, ofDecimal?_zero, h]
  unfold decimalReal
  rw [span, written]
  simp [value]

/-- An unsigned integer up to `2^53` is read from its numeral. -/
theorem unsignedOf_decimal {bits n : Nat} (exact : n ≤ twoTo 53) (small : n < twoTo bits) :
    unsignedOf bits (decimal n) = .ok n := by
  obtain ⟨m, rounded, whole⟩ := Magnitude.exists_ofNat? exact
  have real : realOf (decimal n) = .ok (.finite ⟨false, m⟩) := by
    unfold realOf
    simp only [ofList_decimal_beq n (w := "Infinity") ⟨'I', by decide, rfl⟩,
      ofList_decimal_beq n (w := "-Infinity") ⟨'I', by decide, rfl⟩,
      ofList_decimal_beq n (w := "NaN") ⟨'N', by decide, rfl⟩,
      ofList_decimal_beq n (w := "-NaN") ⟨'N', by decide, rfl⟩,
      ofList_decimal_beq n (w := "+Infinity") ⟨'I', by decide, rfl⟩,
      ofList_decimal_beq n (w := "+NaN") ⟨'N', by decide, rfl⟩, Bool.or_self, Bool.false_eq_true,
      if_false, hexDigits?_decimal, splitSign_decimal]
    exact decimalReal_decimal rounded false
  have floor : Binary64.floorAbs ⟨false, m⟩ = n := whole
  rw [unsignedOf, real]
  simp only [Except.map, Real.saturate, floor, Bool.false_eq_true, if_false]
  exact congrArg _ (Nat.min_eq_left (by omega))

end TopicRelay.Json5
