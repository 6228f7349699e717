/-
The texts of base64. A text spells octets if it consists of the symbols of their groups of six bits and
of at most as many fillers as complete the last group of four; exactly these texts are read, as the
octets that they spell.
-/
import TopicRelay.Trust.Pem

namespace TopicRelay.Trust.Base64

open TopicRelay.Text

/-- A text is base64 of some octets. The fillers at its end may be missing. -/
def Spells (text bs : Octets) : Prop :=
  ∃ fillers ≤ fillersAfter (toSextets bs).length,
    text = (toSextets bs).map symbol ++ List.replicate fillers filler

theorem spells_encode (bs : Octets) : Spells (encode bs) bs :=
  ⟨_, Nat.le_refl _, rfl⟩

/-! ## Symbols and groups, the other way round -/

theorem symbol_value? {c : UInt8} {v : Nat} (h : value? c = some v) : v < 64 ∧ symbol v = c := by
  have table : ∀ n < 256, (value? (UInt8.ofNat n)).all
      (fun v => decide (v < 64) && symbol v == UInt8.ofNat n) = true := by
    decide +kernel
  have entry := table c.toNat c.toNat_lt
  rw [UInt8.ofNat_toNat, h] at entry
  simpa using entry

theorem mapM_value?_symbol {vs : List Nat} (small : ∀ v ∈ vs, v < 64) :
    (vs.map symbol).mapM value? = some vs := by
  induction vs with
  | nil => rfl
  | cons v vs ih =>
    have head : value? (symbol v) = some v := value?_symbol v (small v List.mem_cons_self)
    have tail := ih fun u hu => small u (List.mem_cons_of_mem _ hu)
    rw [List.map_cons, List.mapM_cons, head, tail]
    rfl

theorem mapM_value?_eq_some {cs : Octets} : ∀ {vs : List Nat}, cs.mapM value? = some vs →
    (∀ v ∈ vs, v < 64) ∧ vs.map symbol = cs := by
  induction cs with
  | nil =>
    rintro vs ⟨⟩
    simp
  | cons c cs ih =>
    intro vs h
    rw [List.mapM_cons] at h
    obtain ⟨v, hv, h⟩ := Option.bind_eq_some_iff.1 h
    obtain ⟨rest, hrest, h⟩ := Option.bind_eq_some_iff.1 h
    cases h
    obtain ⟨small, symbols⟩ := ih hrest
    obtain ⟨below, here⟩ := symbol_value? hv
    constructor
    · rintro u (_ | ⟨_, hu⟩)
      · exact below
      · exact small u hu
    · rw [List.map_cons, here, symbols]

/-- Groups of six bits that stand for octets are the groups of these octets. -/
theorem toSextets_ofSextets {vs : List Nat} : ∀ {bs : Octets}, (∀ v ∈ vs, v < 64) →
    ofSextets vs = some bs → toSextets bs = vs := by
  fun_induction ofSextets vs with
  | case1 =>
    rintro bs - ⟨⟩
    rfl
  | case2 => rintro bs - ⟨⟩
  | case3 a b even =>
    rintro bs small ⟨⟩
    simp only [List.mem_cons, List.not_mem_nil, or_false, forall_eq_or_imp, forall_eq] at small
    simp [toSextets]
    omega
  | case4 => rintro bs - ⟨⟩
  | case5 a b c even =>
    rintro bs small ⟨⟩
    simp only [List.mem_cons, List.not_mem_nil, or_false, forall_eq_or_imp, forall_eq] at small
    simp [toSextets]
    omega
  | case6 => rintro bs - ⟨⟩
  | case7 a b c d r ih =>
    intro bs small h
    obtain ⟨rest, hrest, rfl⟩ := Option.map_eq_some_iff.1 h
    simp only [List.mem_cons, forall_eq_or_imp] at small
    obtain ⟨ha, hb, hc, hd, small⟩ := small
    simp only [toSextets, ih small hrest]
    simp
    omega

/-! ## Reading -/

theorem takeWhile_symbols {vs : List Nat} (small : ∀ v ∈ vs, v < 64) (fillers : Nat) :
    (vs.map symbol ++ List.replicate fillers filler).takeWhile isNoFiller = vs.map symbol ∧
      (vs.map symbol ++ List.replicate fillers filler).dropWhile isNoFiller =
        List.replicate fillers filler := by
  have symbols : ∀ c ∈ vs.map symbol, isNoFiller c = true := by
    intro c hc
    obtain ⟨v, hv, rfl⟩ := List.mem_map.1 hc
    exact isNoFiller_symbol v (small v hv)
  rw [List.takeWhile_append_of_pos symbols, List.dropWhile_append_of_pos symbols]
  cases fillers with
  | zero => simp
  | succ n => simp [List.replicate_succ, isNoFiller]

theorem decode?_of_spells {text bs : Octets} (h : Spells text bs) : decode? text = some bs := by
  obtain ⟨fillers, few, rfl⟩ := h
  have small := toSextets_lt bs
  obtain ⟨symbols, rest⟩ := takeWhile_symbols small fillers
  unfold decode?
  rw [symbols, rest]
  dsimp only
  rw [mapM_value?_symbol small, Option.bind_some, ofSextets_toSextets, if_pos]
  simp [few]

theorem spells_of_decode? {text bs : Octets} (h : decode? text = some bs) : Spells text bs := by
  unfold decode? at h
  dsimp only at h
  split at h
  next shape =>
    obtain ⟨vs, hvs, hbs⟩ := Option.bind_eq_some_iff.1 h
    obtain ⟨small, symbols⟩ := mapM_value?_eq_some hvs
    have sextets := toSextets_ofSextets small hbs
    simp only [Bool.and_eq_true, List.all_eq_true, beq_iff_eq, decide_eq_true_eq] at shape
    obtain ⟨fillers, few⟩ := shape
    refine ⟨(text.dropWhile isNoFiller).length, ?_, ?_⟩
    · rw [sextets, ← List.length_map symbol, symbols]
      exact few
    · rw [sextets, symbols, ← List.eq_replicate_iff.2 ⟨rfl, fillers⟩, List.takeWhile_append_dropWhile]
  next => cases h

/-- Exactly the texts of base64 are read, as the octets that they spell. -/
theorem decode?_eq_some_iff {text bs : Octets} : decode? text = some bs ↔ Spells text bs :=
  ⟨spells_of_decode?, decode?_of_spells⟩

theorem decode?_eq_none_iff {text : Octets} : decode? text = none ↔ ∀ bs, ¬ Spells text bs := by
  rw [Option.eq_none_iff_forall_ne_some]
  exact forall_congr' fun bs => not_congr decode?_eq_some_iff

/-- No blank, line end or dash stands in base64. -/
theorem Spells.octet {text bs : Octets} (h : Spells text bs) {c : UInt8} (hc : c ∈ text) :
    Pem.isTrailing c = false ∧ c ≠ 45 := by
  have symbols : ∀ v < 64, Pem.isTrailing (symbol v) = false ∧ symbol v ≠ 45 := by
    decide +kernel
  obtain ⟨fillers, -, rfl⟩ := h
  rcases List.mem_append.1 hc with hc | hc
  · obtain ⟨v, hv, rfl⟩ := List.mem_map.1 hc
    exact symbols v (toSextets_lt bs v hv)
  · obtain rfl := List.eq_of_mem_replicate hc
    decide

end TopicRelay.Trust.Base64
