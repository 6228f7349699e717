/-
Numerals of JSON texts. A numeral is read alike whatever delimiter follows it. An integer within the
limits is read back from its text as itself, and so is minus zero, which is written as a double; another
double may be rounded when its text is read. Conversely an integer that has been read lies within the
limits.
-/
import TopicRelay.Json.Numeral
import TopicRelay.Json.Writer
import TopicRelay.Proofs.Text.Digits
import Mathlib.Data.List.TakeWhile

namespace TopicRelay.Json

open TopicRelay.Decimal TopicRelay.Text

/-- What may follow a value inside an array or object, or at the end of a text. -/
def Delimited (rest : List Char) : Prop :=
  ∀ c ∈ rest.head?, c ∈ [',', ']', '\x7d']

theorem delimited_nil : Delimited [] :=
  nofun

theorem delimited_cons {c : Char} (h : c ∈ [',', ']', '\x7d']) (rest : List Char) :
    Delimited (c :: rest) := by
  rintro d ⟨⟩
  exact h

/-- A number that is read back from its text as itself. -/
def Number.ReadsBack (n : Number) : Prop :=
  readNumber? n.write = some (n, [])

instance (n : Number) : Decidable n.ReadsBack :=
  inferInstanceAs (Decidable (_ = _))

/-- An integer that stays an integer, or minus zero. -/
inductive Number.Whole : Number → Prop
  | integer {n : Int} (least : leastInteger ≤ n) (greatest : n ≤ greatestInteger) : Whole (.integer n)
  | minusZero : Whole (.float ⟨true, .zero⟩)

/-! ## Digits in front of a rest -/

section

variable {cs rest : List Char}

theorem Delimited.not_isDigit (h : Delimited rest) : ∀ c ∈ rest.head?, c.isDigit = false := by
  intro c hc
  have := h c hc
  simp only [List.mem_cons, List.not_mem_nil, or_false] at this
  rcases this with rfl | rfl | rfl <;> rfl

theorem takeWhile_append_of_stop {p : Char → Bool} (stop : ∀ c ∈ rest.head?, p c = false)
    (cs : List Char) : (cs ++ rest).takeWhile p = cs.takeWhile p := by
  induction cs with
  | nil =>
    cases rest with
    | nil => rfl
    | cons c rest => exact List.takeWhile_cons_of_neg (by simp [stop c rfl])
  | cons c cs ih => rw [List.cons_append, List.takeWhile_cons, List.takeWhile_cons, ih]

theorem dropWhile_append_of_stop {p : Char → Bool} (stop : ∀ c ∈ rest.head?, p c = false)
    (cs : List Char) : (cs ++ rest).dropWhile p = cs.dropWhile p ++ rest := by
  induction cs with
  | nil =>
    cases rest with
    | nil => rfl
    | cons c rest => exact List.dropWhile_cons_of_neg (by simp [stop c rfl])
  | cons c cs ih =>
    rw [List.cons_append, List.dropWhile_cons, List.dropWhile_cons, ih]
    split <;> rfl

theorem takeWhile_append_of_head {p : Char → Bool} (all : ∀ c ∈ cs, p c = true)
    (stop : ∀ c ∈ rest.head?, p c = false) : (cs ++ rest).takeWhile p = cs := by
  rw [takeWhile_append_of_stop stop, List.takeWhile_eq_self_iff.2 all]

theorem dropWhile_append_of_head {p : Char → Bool} (all : ∀ c ∈ cs, p c = true)
    (stop : ∀ c ∈ rest.head?, p c = false) : (cs ++ rest).dropWhile p = rest := by
  rw [dropWhile_append_of_stop stop, List.dropWhile_eq_nil_iff.2 all, List.nil_append]

end

theorem le_digitsValue (acc : Nat) (cs : List Char) : acc ≤ digitsValue acc cs := by
  induction cs generalizing acc with
  | nil => exact Nat.le_refl acc
  | cons c cs ih => exact Nat.le_trans (by omega) (ih (acc * 10 + (c.toNat - 48)))

/-- Digits are all taken if their number fits. -/
theorem takeDigits_eq {acc : Nat} {cs : List Char} (h : digitsValue acc cs ≤ significandLimit) :
    takeDigits acc cs = (digitsValue acc cs, []) := by
  induction cs generalizing acc with
  | nil => rfl
  | cons c cs ih =>
    have fits := Nat.le_trans (le_digitsValue (acc * 10 + (c.toNat - 48)) cs) h
    rw [takeDigits, if_neg (Nat.not_lt.2 fits)]
    exact ih h

theorem takeDigits_le {acc : Nat} (h : acc ≤ significandLimit) (cs : List Char) :
    (takeDigits acc cs).1 ≤ significandLimit := by
  induction cs generalizing acc with
  | nil => exact h
  | cons c cs ih =>
    rw [takeDigits]
    split
    · exact h
    · exact ih (Nat.not_lt.1 ‹_›)

/-! ## Parts of a numeral -/

/-- The digits after a point, if there is one: the significand with them, the exponent that their place
gives, what follows, and whether there is no point. -/
def readFraction? (significand : Nat) (dropped rest : List Char) :
    Option (Nat × Int × List Char × Bool) :=
  match rest with
  | '.' :: r =>
    let digits := r.takeWhile Char.isDigit
    if digits.isEmpty then none
    else
      let (s, left) := takeDigits significand digits
      some (s, (dropped.length : Int) - (digits.length - left.length : Nat),
        r.dropWhile Char.isDigit, false)
  | r => some (significand, (dropped.length : Int), r, true)

theorem readFraction?_of_noPoint {rest : List Char} (h : ∀ r, rest = '.' :: r → False)
    (significand : Nat) (dropped : List Char) :
    readFraction? significand dropped rest = some (significand, (dropped.length : Int), rest, true) := by
  unfold readFraction?
  split
  · exact absurd rfl (h _)
  · rfl

/-- The number of a numeral without a point and an exponent whose digits fit. -/
def wholeNumber? (negative : Bool) (significand : Nat) : Option Number :=
  let n : Int := if negative then -(significand : Int) else significand
  if negative && (significand == 0 || n < leastInteger) then floatOf? negative significand 0
  else some (.integer n)

/-- The exponent, if there is one, and the number that all parts make. -/
def readScale? (negative : Bool) (dropped : List Char) :
    Nat × Int × List Char × Bool → Option (Number × List Char)
  | (significand, shift, rest, isWhole) =>
    match rest with
    | 'e' :: r | 'E' :: r =>
      (readExponent? r).bind fun (positive, digits, rest) =>
        (scaledNumber? negative significand shift positive digits).map (·, rest)
    | rest =>
      (if isWhole && dropped.isEmpty then wholeNumber? negative significand
        else floatOf? negative significand shift).map (·, rest)

theorem readUnsigned?_eq (negative : Bool) (cs : List Char) :
    readUnsigned? negative cs = (readWhole? cs).bind fun (whole, rest) =>
      (readFraction? (takeDigits 0 whole).1 (takeDigits 0 whole).2 rest).bind
        (readScale? negative (takeDigits 0 whole).2) := by
  have scale (dropped : List Char) (x : Nat × Int × List Char × Bool) :
      readScale? negative dropped x = match x.2.2.1 with
        | 'e' :: r | 'E' :: r => do
          let (positive, digits, rest) ← readExponent? r
          let n ← scaledNumber? negative x.1 x.2.1 positive digits
          return (n, rest)
        | rest =>
          if x.2.2.2 && dropped.isEmpty then
            let n : Int := if negative then -(x.1 : Int) else x.1
            if negative && (x.1 == 0 || n < leastInteger) then do
              let x ← floatOf? negative x.1 0
              return (x, rest)
            else return (.integer n, rest)
          else do
            let x ← floatOf? negative x.1 x.2.1
            return (x, rest) := by
    obtain ⟨significand, shift, rest, isWhole⟩ := x
    unfold readScale? wholeNumber?
    dsimp only
    split <;> simp only [Option.map_eq_bind] <;> (repeat' split) <;> rfl
  unfold readUnsigned?
  refine congrArg _ (funext fun ⟨whole, rest⟩ => ?_)
  dsimp only
  split
  · split
    · rename_i none
      rw [readFraction?, if_pos none]
      rfl
    · rename_i digits
      rw [readFraction?, if_neg digits]
      dsimp only
      rw [Option.bind_some, scale]
      rfl
  · rename_i noPoint
    rw [readFraction?_of_noPoint noPoint, Option.bind_some, scale]
    rfl

/-! ## Numerals in front of a rest -/

section

variable {cs rest : List Char}

/-- Without an exponent the number is that of the digits. -/
theorem readScale?_of_noExponent (none : ∀ c ∈ cs.head?, c ≠ 'e' ∧ c ≠ 'E') (negative isWhole : Bool)
    (dropped : List Char) (significand : Nat) (shift : Int) :
    readScale? negative dropped (significand, shift, cs, isWhole) =
      (if isWhole && dropped.isEmpty then wholeNumber? negative significand
        else floatOf? negative significand shift).map (·, cs) := by
  unfold readScale?
  dsimp only
  split
  · exact absurd rfl (none _ rfl).1
  · exact absurd rfl (none _ rfl).2
  · rfl

theorem readWhole?_append (ends : Delimited rest) (cs : List Char) :
    readWhole? (cs ++ rest) = (readWhole? cs).map fun x => (x.1, x.2 ++ rest) := by
  unfold readWhole?
  rw [takeWhile_append_of_stop ends.not_isDigit, dropWhile_append_of_stop ends.not_isDigit]
  dsimp only
  split <;> rfl

theorem readFraction?_append (ends : Delimited rest) (significand : Nat) (dropped cs : List Char) :
    readFraction? significand dropped (cs ++ rest) =
      (readFraction? significand dropped cs).map fun x => (x.1, x.2.1, x.2.2.1 ++ rest, x.2.2.2) := by
  by_cases point : ∃ r, cs = '.' :: r
  · obtain ⟨r, rfl⟩ := point
    simp only [List.cons_append, readFraction?, takeWhile_append_of_stop ends.not_isDigit,
      dropWhile_append_of_stop ends.not_isDigit]
    split <;> rfl
  · have noPoint (r : List Char) (h : cs = '.' :: r) : False := point ⟨r, h⟩
    rw [readFraction?_of_noPoint noPoint, readFraction?_of_noPoint, Option.map_some]
    intro r h
    cases cs with
    | nil =>
      rw [List.nil_append] at h
      exact absurd (ends '.' (h ▸ rfl)) (by decide)
    | cons c cs => exact point ⟨cs, congrArg (· :: cs) (List.cons.inj h).1⟩

theorem readExponent?_append (ends : Delimited rest) (cs : List Char) :
    readExponent? (cs ++ rest) = (readExponent? cs).map fun x => (x.1, x.2.1, x.2.2 ++ rest) := by
  have digits (positive : Bool) (cs : List Char) :
      (if ((cs ++ rest).takeWhile Char.isDigit).isEmpty then none
        else some (positive, (cs ++ rest).takeWhile Char.isDigit, (cs ++ rest).dropWhile Char.isDigit)) =
      (if (cs.takeWhile Char.isDigit).isEmpty then none
        else some (positive, cs.takeWhile Char.isDigit, cs.dropWhile Char.isDigit)).map
          fun x => (x.1, x.2.1, x.2.2 ++ rest) := by
    rw [takeWhile_append_of_stop ends.not_isDigit, dropWhile_append_of_stop ends.not_isDigit]
    split <;> rfl
  cases cs with
  | nil =>
    cases rest with
    | nil => rfl
    | cons c rest =>
      have first := ends c rfl
      simp only [List.mem_cons, List.not_mem_nil, or_false] at first
      rcases first with rfl | rfl | rfl <;> rfl
  | cons c cs =>
    by_cases plus : c = '+'
    · subst plus
      exact digits true cs
    · by_cases minus : c = '-'
      · subst minus
        exact digits false cs
      · have signless (r : List Char) : readExponent? (c :: r) =
            if ((c :: r).takeWhile Char.isDigit).isEmpty then none
            else some (true, (c :: r).takeWhile Char.isDigit, (c :: r).dropWhile Char.isDigit) := by
          simp [readExponent?, plus, minus]
        rw [List.cons_append, signless, signless]
        exact digits true (c :: cs)

theorem readScale?_append (ends : Delimited rest) (negative : Bool) (dropped : List Char)
    (x : Nat × Int × List Char × Bool) :
    readScale? negative dropped (x.1, x.2.1, x.2.2.1 ++ rest, x.2.2.2) =
      (readScale? negative dropped x).map fun y => (y.1, y.2 ++ rest) := by
  obtain ⟨significand, shift, cs, isWhole⟩ := x
  have scaled (cs : List Char) :
      ((readExponent? (cs ++ rest)).bind fun (positive, digits, r) =>
        (scaledNumber? negative significand shift positive digits).map (·, r)) =
      ((readExponent? cs).bind fun (positive, digits, r) =>
        (scaledNumber? negative significand shift positive digits).map (·, r)).map
          fun y => (y.1, y.2 ++ rest) := by
    rw [readExponent?_append ends]
    cases readExponent? cs with
    | none => rfl
    | some x =>
      simp only [Option.map_some, Option.bind_some, Option.map_map]
      rfl
  have plain (none : ∀ c ∈ (cs ++ rest).head?, c ≠ 'e' ∧ c ≠ 'E')
      (none' : ∀ c ∈ cs.head?, c ≠ 'e' ∧ c ≠ 'E') :
      readScale? negative dropped (significand, shift, cs ++ rest, isWhole) =
        (readScale? negative dropped (significand, shift, cs, isWhole)).map
          fun y => (y.1, y.2 ++ rest) := by
    rw [readScale?_of_noExponent none, readScale?_of_noExponent none', Option.map_map]
    rfl
  cases cs with
  | nil =>
    refine plain (fun c hc => ?_) (by simp)
    constructor <;>
    · rintro rfl
      exact absurd (ends _ hc) (by decide)
  | cons c cs =>
    by_cases small : c = 'e'
    · subst small
      exact scaled cs
    · by_cases large : c = 'E'
      · subst large
        exact scaled cs
      · refine plain ?_ ?_ <;>
        · rintro _ ⟨⟩
          exact ⟨small, large⟩

theorem readUnsigned?_append (ends : Delimited rest) (negative : Bool) (cs : List Char) :
    readUnsigned? negative (cs ++ rest) =
      (readUnsigned? negative cs).map fun x => (x.1, x.2 ++ rest) := by
  rw [readUnsigned?_eq, readUnsigned?_eq, readWhole?_append ends]
  cases readWhole? cs with
  | none => rfl
  | some x =>
    simp only [Option.map_some, Option.bind_some]
    rw [readFraction?_append ends]
    cases readFraction? (takeDigits 0 x.1).1 (takeDigits 0 x.1).2 x.2 with
    | none => rfl
    | some y => exact readScale?_append ends negative _ y

/-- A numeral is read alike wherever it stands: nothing that follows goes on with it. -/
theorem readNumber?_append (ends : Delimited rest) (cs : List Char) :
    readNumber? (cs ++ rest) = (readNumber? cs).map fun x => (x.1, x.2 ++ rest) := by
  have unsigned (cs : List Char) (h : ∀ r, cs = '-' :: r → False) :
      readNumber? cs = readUnsigned? false cs := by
    unfold readNumber?
    split
    · exact absurd rfl (h _)
    · rfl
  by_cases minus : ∃ r, cs = '-' :: r
  · obtain ⟨r, rfl⟩ := minus
    exact readUnsigned?_append ends true r
  · rw [unsigned cs fun r h => minus ⟨r, h⟩, ← readUnsigned?_append ends]
    refine unsigned _ fun r h => ?_
    cases cs with
    | nil =>
      rw [List.nil_append] at h
      exact absurd (ends '-' (h ▸ rfl)) (by decide)
    | cons c cs => exact minus ⟨cs, congrArg (· :: cs) (List.cons.inj h).1⟩

/-- A numeral starts with a minus sign or a digit. -/
theorem exists_cons_of_readNumber? {x : Number × List Char} (h : readNumber? cs = some x) :
    ∃ c r, cs = c :: r ∧ (c = '-' ∨ c.isDigit = true) := by
  unfold readNumber? at h
  split at h
  · exact ⟨'-', _, rfl, .inl rfl⟩
  · rw [readUnsigned?_eq] at h
    obtain ⟨y, whole, -⟩ := Option.bind_eq_some_iff.1 h
    cases cs with
    | nil => cases whole
    | cons c r =>
      refine ⟨c, r, rfl, .inr ?_⟩
      by_contra other
      rw [readWhole?, List.takeWhile_cons_of_neg other] at whole
      cases whole

end

/-! ## Reading what is written -/

theorem readWhole?_decimal (n : Nat) : readWhole? (decimal n) = some (decimal n, []) := by
  unfold readWhole?
  rw [List.takeWhile_eq_self_iff.2 fun c => isDigit_of_mem_decimal,
    List.dropWhile_eq_nil_iff.2 fun c => isDigit_of_mem_decimal]
  by_cases zero : n = 0
  · subst zero
    rw [decimal_of_lt (by decide)]
    rfl
  · obtain ⟨c, r, written, first⟩ := head_decimal zero
    rw [written]
    dsimp only
    split
    · rename_i h; cases h
    · rename_i h; cases h; exact absurd rfl first
    · rfl

theorem readUnsigned?_decimal {n : Nat} (fits : n ≤ significandLimit) (negative : Bool) :
    readUnsigned? negative (decimal n) = (wholeNumber? negative n).map (·, []) := by
  have taken : takeDigits 0 (decimal n) = (n, []) := by
    rw [takeDigits_eq (by rwa [digitsValue_decimal]), digitsValue_decimal]
  rw [readUnsigned?_eq, readWhole?_decimal, Option.bind_some]
  dsimp only
  rw [taken]
  rfl

/-- The digits of a number after its sign, if it is negative. -/
def signedDigits (negative : Bool) (n : Nat) : List Char :=
  if negative then '-' :: decimal n else decimal n

theorem readNumber?_signedDigits {n : Nat} (fits : n ≤ significandLimit) (negative : Bool) :
    readNumber? (signedDigits negative n) = (wholeNumber? negative n).map (·, []) := by
  cases negative with
  | true => exact readUnsigned?_decimal fits true
  | false =>
    have unsigned : readNumber? (decimal n) = readUnsigned? false (decimal n) := by
      obtain ⟨c, r, written, digit⟩ := exists_decimal_eq_cons n
      rw [written, readNumber?]
      rintro r' ⟨⟩
      cases digit
    exact unsigned.trans (readUnsigned?_decimal fits false)

theorem wholeNumber?_negative {n : Nat} (least : leastInteger ≤ -((n + 1 : Nat) : Int)) :
    wholeNumber? true (n + 1) = some (.integer (-((n + 1 : Nat) : Int))) := by
  have stays : (true && (n + 1 == 0 || decide (-((n + 1 : Nat) : Int) < leastInteger))) = false := by
    simpa using least
  exact if_neg (Bool.eq_false_iff.1 stays)

theorem natural_fits {n : Nat} (greatest : (n : Int) ≤ greatestInteger) : n ≤ significandLimit := by
  simp only [greatestInteger, significandLimit] at greatest ⊢
  omega

theorem negative_fits {n : Nat} (least : leastInteger ≤ -(n : Int)) : n ≤ significandLimit := by
  have smaller : twoTo 63 + 1 ≤ twoTo 64 := by decide
  simp only [leastInteger, significandLimit] at least ⊢
  omega

theorem write_minusZero : (Number.float ⟨true, .zero⟩).write = ['-', '0', '.', '0'] := by
  have zero : decimal 0 = ['0'] := decimal_of_lt (by decide)
  simp [Number.write, Binary64.text, Binary64.isZero, Binary64.signed, Magnitude.shortest,
    Magnitude.zero, Numeral.pointed, Numeral.positional, Numeral.zeros, zero]

/-- A whole number is read back as itself. -/
theorem Number.Whole.readsBack {n : Number} (whole : n.Whole) : n.ReadsBack := by
  unfold ReadsBack
  cases whole with
  | @integer n least greatest =>
    cases n with
    | ofNat n => exact readNumber?_signedDigits (natural_fits greatest) false
    | negSucc n =>
      have least : leastInteger ≤ -((n + 1 : Nat) : Int) := least
      refine (readNumber?_signedDigits (negative_fits least) true).trans ?_
      rw [wholeNumber?_negative least]
      rfl
  | minusZero =>
    rw [write_minusZero]
    rfl

/-- A numeral within the limits without a fraction and without an exponent is read as a whole number,
whatever delimiter follows it. -/
theorem whole_of_signedDigits {negative : Bool} {n : Nat} {rest : List Char} (ends : Delimited rest)
    (fits : if negative then leastInteger ≤ -(n : Int) else (n : Int) ≤ greatestInteger) :
    ∃ m, readNumber? (signedDigits negative n ++ rest) = some (m, rest) ∧ m.Whole := by
  rw [readNumber?_append ends]
  cases negative with
  | false =>
    have least : leastInteger ≤ (n : Int) :=
      Int.le_trans (by decide : leastInteger ≤ 0) (Int.natCast_nonneg n)
    rw [readNumber?_signedDigits (natural_fits fits)]
    exact ⟨.integer n, rfl, .integer least fits⟩
  | true =>
    have least : leastInteger ≤ -(n : Int) := fits
    rw [readNumber?_signedDigits (negative_fits least)]
    cases n with
    | zero => exact ⟨.float ⟨true, .zero⟩, rfl, .minusZero⟩
    | succ n =>
      rw [wholeNumber?_negative least]
      have greatest : -((n + 1 : Nat) : Int) ≤ greatestInteger :=
        Int.le_trans (by omega) (by decide : 0 ≤ greatestInteger)
      exact ⟨.integer _, rfl, .integer least greatest⟩

/-! ## What has been read -/

/-- A number that is a double, or an integer within the limits. -/
def Number.InRange (n : Number) : Prop :=
  ∀ i, n = .integer i → leastInteger ≤ i ∧ i ≤ greatestInteger

theorem floatOf?_inRange {negative : Bool} {significand : Nat} {exponent : Int} {n : Number}
    (h : floatOf? negative significand exponent = some n) : n.InRange := by
  simp only [floatOf?, Option.bind_eq_bind, Option.bind_eq_some_iff, Option.pure_def,
    Option.some.injEq] at h
  obtain ⟨f, -, m, -, rfl⟩ := h
  exact fun i => nofun

theorem scaledNumber?_inRange {negative positive : Bool} {significand : Nat} {shift : Int}
    {digits : List Char} {n : Number}
    (h : scaledNumber? negative significand shift positive digits = some n) : n.InRange := by
  unfold scaledNumber? at h
  dsimp only at h
  split at h
  · split at h
    · cases h
    · cases h
      exact fun i => nofun
  · exact floatOf?_inRange h

theorem wholeNumber?_inRange {negative : Bool} {significand : Nat} {n : Number}
    (fits : significand ≤ significandLimit) (h : wholeNumber? negative significand = some n) :
    n.InRange := by
  have powers : leastInteger ≤ 0 ∧ 0 ≤ greatestInteger ∧ (significandLimit : Int) ≤ greatestInteger := by
    decide
  cases negative with
  | false =>
    cases h
    rintro i ⟨⟩
    rw [if_neg Bool.false_ne_true]
    omega
  | true =>
    simp only [wholeNumber?, if_true, Bool.true_and, Bool.or_eq_true, beq_iff_eq,
      decide_eq_true_eq] at h
    split at h
    · exact floatOf?_inRange h
    · cases h
      rintro i ⟨⟩
      omega

theorem readScale?_inRange {negative : Bool} {dropped rest : List Char}
    {x : Nat × Int × List Char × Bool} {n : Number}
    (fits : x.2.2.2 = true → x.1 ≤ significandLimit)
    (h : readScale? negative dropped x = some (n, rest)) : n.InRange := by
  obtain ⟨significand, shift, r, isWhole⟩ := x
  unfold readScale? at h
  dsimp only at h fits
  split at h
  all_goals
    simp only [Option.bind_eq_some_iff, Option.map_eq_some_iff, Prod.mk.injEq] at h
  · obtain ⟨a, -, n', scaled, rfl, -⟩ := h
    exact scaledNumber?_inRange scaled
  · obtain ⟨a, -, n', scaled, rfl, -⟩ := h
    exact scaledNumber?_inRange scaled
  · obtain ⟨n', made, rfl, -⟩ := h
    split at made
    · rename_i whole
      exact wholeNumber?_inRange (fits (Bool.and_eq_true_iff.1 whole).1) made
    · exact floatOf?_inRange made

theorem readFraction?_fits {significand : Nat} {dropped rest : List Char}
    {x : Nat × Int × List Char × Bool} (fits : significand ≤ significandLimit)
    (h : readFraction? significand dropped rest = some x) :
    x.2.2.2 = true → x.1 ≤ significandLimit := by
  unfold readFraction? at h
  split at h
  · dsimp only at h
    split at h
    · cases h
    · cases h
      exact nofun
  · cases h
    exact fun _ => fits

/-- An integer that has been read lies within the limits. -/
theorem readNumber?_inRange {cs rest : List Char} {n : Number} (h : readNumber? cs = some (n, rest)) :
    n.InRange := by
  have unsigned {negative : Bool} {cs : List Char}
      (h : readUnsigned? negative cs = some (n, rest)) : n.InRange := by
    rw [readUnsigned?_eq] at h
    obtain ⟨⟨whole, r⟩, -, h⟩ := Option.bind_eq_some_iff.1 h
    obtain ⟨x, fraction, scaled⟩ := Option.bind_eq_some_iff.1 h
    exact readScale?_inRange (readFraction?_fits (takeDigits_le (Nat.zero_le _) whole) fraction) scaled
  unfold readNumber? at h
  split at h <;> exact unsigned h

end TopicRelay.Json
