/-
Numerals and their numbers. A decimal numeral consists of digits, starts with zero only if it is zero,
and is read back as the number it was written for.
-/
import TopicRelay.Text.Digits

namespace TopicRelay.Text

/-! ## Digits -/

theorem isDigit_digitChar : ∀ n < 10, (digitChar n).isDigit = true := by
  decide

theorem toNat_digitChar : ∀ n < 10, (digitChar n).toNat - 48 = n := by
  decide

theorem digitChar_ne_zero : ∀ n < 10, n ≠ 0 → digitChar n ≠ '0' := by
  decide

theorem hexValue?_digitChar : ∀ n < 16, hexValue? (digitChar n) = some n := by
  decide

/-! ## Decimal numerals -/

theorem digitsOnto_append (b n : Nat) (acc : List Char) :
    digitsOnto b n acc = digitsOnto b n [] ++ acc := by
  induction n using Nat.strongRecOn generalizing acc with
  | ind n ih =>
    by_cases last : n < b ∨ b < 2
    · rw [digitsOnto, dif_pos last, digitsOnto, dif_pos last]
      rfl
    · have smaller : n / b < n := Nat.div_lt_self (by omega) (by omega)
      rw [digitsOnto, dif_neg last, digitsOnto.eq_def b n [], dif_neg last,
        ih (n / b) smaller (digitChar (n % b) :: acc), ih (n / b) smaller [digitChar (n % b)],
        List.append_assoc]
      rfl

theorem decimal_of_lt {n : Nat} (h : n < 10) : decimal n = [digitChar n] := by
  rw [decimal, digitsOnto, dif_pos (.inl h)]

/-- The last digit of a numeral is the remainder, the others are the numeral of the quotient. -/
theorem decimal_of_le {n : Nat} (h : 10 ≤ n) : decimal n = decimal (n / 10) ++ [digitChar (n % 10)] := by
  rw [decimal, digitsOnto, dif_neg (by omega), digitsOnto_append]
  rfl

theorem decimal_ne_nil (n : Nat) : decimal n ≠ [] := by
  by_cases h : n < 10
  · simp [decimal_of_lt h]
  · simp [decimal_of_le (Nat.le_of_not_lt h)]

theorem isDigit_of_mem_decimal {n : Nat} {c : Char} (h : c ∈ decimal n) : c.isDigit = true := by
  induction n using Nat.strongRecOn with
  | ind n ih =>
    by_cases small : n < 10
    · rw [decimal_of_lt small, List.mem_singleton] at h
      exact h ▸ isDigit_digitChar n small
    · rw [decimal_of_le (by omega), List.mem_append, List.mem_singleton] at h
      rcases h with h | rfl
      · exact ih (n / 10) (by omega) h
      · exact isDigit_digitChar _ (by omega)

theorem exists_decimal_eq_cons (n : Nat) : ∃ c r, decimal n = c :: r ∧ c.isDigit = true := by
  obtain ⟨c, r, written⟩ := List.exists_cons_of_ne_nil (decimal_ne_nil n)
  exact ⟨c, r, written, isDigit_of_mem_decimal (n := n) (written ▸ List.mem_cons_self)⟩

/-- Only zero is written with a leading zero. -/
theorem head_decimal {n : Nat} (h : n ≠ 0) : ∃ c r, decimal n = c :: r ∧ c ≠ '0' := by
  induction n using Nat.strongRecOn with
  | ind n ih =>
    by_cases small : n < 10
    · exact ⟨digitChar n, [], decimal_of_lt small, digitChar_ne_zero n small h⟩
    · obtain ⟨c, r, written, first⟩ := ih (n / 10) (by omega) (by omega)
      exact ⟨c, r ++ [digitChar (n % 10)], by rw [decimal_of_le (by omega), written]; rfl, first⟩

/-! ## Numbers -/

theorem digitsValue_append (acc : Nat) (cs ds : List Char) :
    digitsValue acc (cs ++ ds) = digitsValue (digitsValue acc cs) ds := by
  induction cs generalizing acc with
  | nil => rfl
  | cons c cs ih => exact ih _

theorem digitsValue_singleton (acc : Nat) (c : Char) :
    digitsValue acc [c] = acc * 10 + (c.toNat - 48) :=
  rfl

/-- A numeral is read back as its number. -/
theorem digitsValue_decimal (n : Nat) : digitsValue 0 (decimal n) = n := by
  induction n using Nat.strongRecOn with
  | ind n ih =>
    by_cases small : n < 10
    · rw [decimal_of_lt small, digitsValue_singleton, toNat_digitChar n small]
      omega
    · rw [decimal_of_le (by omega), digitsValue_append, ih (n / 10) (by omega), digitsValue_singleton,
        toNat_digitChar _ (by omega)]
      omega

end TopicRelay.Text
