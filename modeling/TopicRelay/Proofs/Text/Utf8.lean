/-
UTF-8 both ways. A piece that is a scalar is the sequence that the scalar is encoded as, and the
sequence of a scalar is cut as that scalar whatever follows it. So the strict decoder inverts the
encoder, and it accepts the texts that the encoder writes and nothing else. Latin-1 needs less: a text
whose code points are octets is read back from them.
-/
import TopicRelay.Text.Utf8

namespace TopicRelay.Text

namespace Utf8

/-! ## Octets as numbers -/

theorem width_eq (a : UInt8) :
    width a = if a.toNat < 0x80 then 1 else if a.toNat < 0xC2 then 0 else if a.toNat < 0xE0 then 2
      else if a.toNat < 0xF0 then 3 else if a.toNat < 0xF5 then 4 else 0 := by
  simp only [width, UInt8.lt_iff_toNat_lt]
  rfl

theorem width_eq_one_iff (a : UInt8) : width a = 1 ↔ a.toNat < 0x80 := by
  rw [width_eq]
  (repeat' split) <;> omega

theorem width_eq_two_iff (a : UInt8) : width a = 2 ↔ 0xC2 ≤ a.toNat ∧ a.toNat < 0xE0 := by
  rw [width_eq]
  (repeat' split) <;> omega

theorem width_eq_three_iff (a : UInt8) : width a = 3 ↔ 0xE0 ≤ a.toNat ∧ a.toNat < 0xF0 := by
  rw [width_eq]
  (repeat' split) <;> omega

theorem width_eq_four_iff (a : UInt8) : width a = 4 ↔ 0xF0 ≤ a.toNat ∧ a.toNat < 0xF5 := by
  rw [width_eq]
  (repeat' split) <;> omega

theorem width_le (a : UInt8) : width a ≤ 4 := by
  rw [width_eq]
  (repeat' split) <;> omega

theorem isTail_iff (b : UInt8) : isTail b = true ↔ 0x80 ≤ b.toNat ∧ b.toNat ≤ 0xBF := by
  simp [isTail, UInt8.le_iff_toNat_le]

theorem isSecond_iff (a b : UInt8) :
    isSecond a b = true ↔ 0x80 ≤ b.toNat ∧ b.toNat ≤ 0xBF ∧ (a.toNat = 0xE0 → 0xA0 ≤ b.toNat) ∧
      (a.toNat = 0xED → b.toNat ≤ 0x9F) ∧ (a.toNat = 0xF0 → 0x90 ≤ b.toNat) ∧
      (a.toNat = 0xF4 → b.toNat ≤ 0x8F) := by
  simp only [isSecond, isTail_iff, beq_iff_eq, ← UInt8.toNat_inj, Bool.ite_eq_true_distrib,
    Bool.and_eq_true, decide_eq_true_eq, UInt8.le_iff_toNat_le, UInt8.reduceToNat]
  (repeat' split) <;> omega

/-! ## One scalar -/

theorem isValidChar (c : Char) : c.toNat < 0xD800 ∨ 0xDFFF < c.toNat ∧ c.toNat < 0x110000 :=
  c.valid

theorem toNat_ofNat {n : Nat} (h : n < 0xD800 ∨ 0xDFFF < n ∧ n < 0x110000) :
    (Char.ofNat n).toNat = n := by
  have valid : n.isValidChar := h
  rw [Char.ofNat, dif_pos valid]
  rfl

/-- The sequence of a scalar, written with the scalar's number. -/
theorem utf8EncodeChar_eq (c : Char) :
    String.utf8EncodeChar c =
      if c.toNat ≤ 0x7F then [UInt8.ofNat c.toNat]
      else if c.toNat ≤ 0x7FF then [UInt8.ofNat (c.toNat / 64 % 32 + 192), UInt8.ofNat (c.toNat % 64 + 128)]
      else if c.toNat ≤ 0xFFFF then
        [UInt8.ofNat (c.toNat / 4096 % 16 + 224), UInt8.ofNat (c.toNat / 64 % 64 + 128),
          UInt8.ofNat (c.toNat % 64 + 128)]
      else
        [UInt8.ofNat (c.toNat / 262144 % 8 + 240), UInt8.ofNat (c.toNat / 4096 % 64 + 128),
          UInt8.ofNat (c.toNat / 64 % 64 + 128), UInt8.ofNat (c.toNat % 64 + 128)] :=
  rfl

/-- The well-formed sequences, each with its scalar. -/
inductive Spells : Octets → Char → Prop
  | one {a : UInt8} (wide : width a = 1) : Spells [a] (Char.ofNat a.toNat)
  | two {a b : UInt8} (wide : width a = 2) (second : isTail b = true) : Spells [a, b] (scalar2 a b)
  | three {a b c : UInt8} (wide : width a = 3) (second : isSecond a b = true) (third : isTail c = true) :
      Spells [a, b, c] (scalar3 a b c)
  | four {a b c d : UInt8} (wide : width a = 4) (second : isSecond a b = true) (third : isTail c = true)
      (fourth : isTail d = true) : Spells [a, b, c, d] (scalar4 a b c d)

/-- A well-formed sequence is cut as its scalar, whatever follows it. -/
theorem Spells.piece {a : UInt8} {bs rest : Octets} {c : Char} (h : Spells (a :: bs) c) :
    piece a (bs ++ rest) = (.scalar c, rest) := by
  cases h with
  | one wide => simp [Utf8.piece, wide]
  | two wide second => simp [Utf8.piece, wide, second]
  | three wide second third => simp [Utf8.piece, wide, second, third]
  | four wide second third fourth => simp [Utf8.piece, wide, second, third, fourth]

/-- Only a well-formed sequence is cut as a scalar. -/
theorem spells_of_piece {a : UInt8} {rest r : Octets} {c : Char} (h : piece a rest = (.scalar c, r)) :
    ∃ bs, rest = bs ++ r ∧ Spells (a :: bs) c := by
  have scalar {x : Char} {s : Octets} (h : (Piece.scalar x, s) = (.scalar c, r)) : x = c ∧ s = r := by
    simpa using h
  unfold piece at h
  split at h
  · cases h
  · rename_i wide
    obtain ⟨rfl, rfl⟩ := scalar h
    exact ⟨[], rfl, .one wide⟩
  · cases h
  · rename_i b r' wide
    split at h
    · rename_i second
      obtain ⟨rfl, rfl⟩ := scalar h
      exact ⟨[b], rfl, .two wide second⟩
    · cases h
  · rename_i b r' wide
    split at h
    · rename_i second
      split at h
      · cases h
      · rename_i d r''
        split at h
        · rename_i third
          obtain ⟨rfl, rfl⟩ := scalar h
          exact ⟨[b, d], rfl, .three wide second third⟩
        · cases h
    · cases h
  · rename_i b r' not0 not1 not2 not3
    have wide : width a = 4 := by
      have narrow := width_le a
      have : width a ≠ 0 := not0
      have : width a ≠ 1 := not1
      have : width a ≠ 2 := not2
      have : width a ≠ 3 := not3
      omega
    split at h
    · rename_i second
      split at h
      · cases h
      · rename_i d r''
        split at h
        · rename_i third
          split at h
          · cases h
          · rename_i e r'''
            split at h
            · rename_i fourth
              obtain ⟨rfl, rfl⟩ := scalar h
              exact ⟨[b, d, e], rfl, .four wide second third fourth⟩
            · cases h
        · cases h
    · cases h

/-- What a scalar is encoded as is well-formed. -/
theorem spells_utf8EncodeChar (c : Char) : Spells (String.utf8EncodeChar c) c := by
  have valid := isValidChar c
  have back {n : Nat} (h : n = c.toNat) : Char.ofNat n = c := h ▸ Char.ofNat_toNat c
  rw [utf8EncodeChar_eq]
  split
  · have spelled := Spells.one (a := UInt8.ofNat c.toNat) (by rw [width_eq_one_iff, UInt8.toNat_ofNat']; omega)
    rwa [back (by rw [UInt8.toNat_ofNat']; omega)] at spelled
  · split
    · have spelled := Spells.two (a := UInt8.ofNat (c.toNat / 64 % 32 + 192))
        (b := UInt8.ofNat (c.toNat % 64 + 128))
        (by rw [width_eq_two_iff, UInt8.toNat_ofNat']; omega)
        (by rw [isTail_iff, UInt8.toNat_ofNat']; omega)
      rwa [scalar2, back (by rw [UInt8.toNat_ofNat', UInt8.toNat_ofNat']; omega)] at spelled
    · split
      · have spelled := Spells.three (a := UInt8.ofNat (c.toNat / 4096 % 16 + 224))
          (b := UInt8.ofNat (c.toNat / 64 % 64 + 128)) (c := UInt8.ofNat (c.toNat % 64 + 128))
          (by rw [width_eq_three_iff, UInt8.toNat_ofNat']; omega)
          (by rw [isSecond_iff, UInt8.toNat_ofNat', UInt8.toNat_ofNat']; omega)
          (by rw [isTail_iff, UInt8.toNat_ofNat']; omega)
        rwa [scalar3, back (by simp only [UInt8.toNat_ofNat']; omega)] at spelled
      · have spelled := Spells.four (a := UInt8.ofNat (c.toNat / 262144 % 8 + 240))
          (b := UInt8.ofNat (c.toNat / 4096 % 64 + 128)) (c := UInt8.ofNat (c.toNat / 64 % 64 + 128))
          (d := UInt8.ofNat (c.toNat % 64 + 128))
          (by rw [width_eq_four_iff, UInt8.toNat_ofNat']; omega)
          (by rw [isSecond_iff, UInt8.toNat_ofNat', UInt8.toNat_ofNat']; omega)
          (by rw [isTail_iff, UInt8.toNat_ofNat']; omega)
          (by rw [isTail_iff, UInt8.toNat_ofNat']; omega)
        rwa [scalar4, back (by simp only [UInt8.toNat_ofNat']; omega)] at spelled

/-- A well-formed sequence is what its scalar is encoded as. -/
theorem Spells.eq_utf8EncodeChar {bs : Octets} {c : Char} (h : Spells bs c) :
    bs = String.utf8EncodeChar c := by
  have octet {a : UInt8} {n : Nat} (h : a.toNat = n) : a = UInt8.ofNat n := by
    rw [← h, UInt8.ofNat_toNat]
  cases h with
  | @one a wide =>
    rw [width_eq_one_iff] at wide
    rw [utf8EncodeChar_eq, toNat_ofNat (by omega), if_pos (by omega), UInt8.ofNat_toNat]
  | @two a b wide second =>
    rw [width_eq_two_iff] at wide
    rw [isTail_iff] at second
    rw [utf8EncodeChar_eq, scalar2, toNat_ofNat (by omega), if_neg (by omega), if_pos (by omega)]
    simp only [List.cons.injEq, and_true]
    exact ⟨octet (by omega), octet (by omega)⟩
  | @three a b c wide second third =>
    rw [width_eq_three_iff] at wide
    rw [isSecond_iff] at second
    rw [isTail_iff] at third
    rw [utf8EncodeChar_eq, scalar3, toNat_ofNat (by omega), if_neg (by omega), if_neg (by omega),
      if_pos (by omega)]
    simp only [List.cons.injEq, and_true]
    exact ⟨octet (by omega), octet (by omega), octet (by omega)⟩
  | @four a b c d wide second third fourth =>
    rw [width_eq_four_iff] at wide
    rw [isSecond_iff] at second
    rw [isTail_iff] at third fourth
    rw [utf8EncodeChar_eq, scalar4, toNat_ofNat (by omega), if_neg (by omega), if_neg (by omega),
      if_neg (by omega)]
    simp only [List.cons.injEq, and_true]
    exact ⟨octet (by omega), octet (by omega), octet (by omega), octet (by omega)⟩

/-! ## Texts -/

theorem pieces_cons (a : UInt8) (rest : Octets) :
    pieces (a :: rest) = (piece a rest).1 :: pieces (piece a rest).2 := by
  rw [pieces]

theorem pieces_encodeChars : ∀ cs : List Char, pieces (encodeChars cs) = cs.map .scalar
  | [] => by rw [encodeChars, List.flatMap_nil, pieces, List.map_nil]
  | c :: cs => by
    have spelled := spells_utf8EncodeChar c
    rw [encodeChars, List.flatMap_cons]
    cases h : String.utf8EncodeChar c with
    | nil => rw [h] at spelled; cases spelled
    | cons a bs =>
      rw [h] at spelled
      rw [List.cons_append, pieces_cons, spelled.piece]
      exact congrArg (Piece.scalar c :: ·) (pieces_encodeChars cs)

theorem scalars_map (cs : List Char) (index : Nat) : scalars index (cs.map .scalar) = .ok cs := by
  induction cs generalizing index with
  | nil => rfl
  | cons c cs ih => simp [scalars, ih, Except.map]

theorem encodeChars_of_scalars (bs : Octets) (index : Nat) (cs : List Char)
    (h : scalars index (pieces bs) = .ok cs) : encodeChars cs = bs := by
  induction bs using pieces.induct generalizing index cs with
  | case1 =>
    rw [pieces] at h
    cases h
    rfl
  | case2 a rest ih =>
    rw [pieces_cons] at h
    cases first : piece a rest with
    | mk p r =>
      rw [first] at h ih
      cases p with
      | broken n => cases h
      | cut n => cases h
      | scalar c =>
        simp only [scalars] at h
        cases tail : scalars (index + (String.utf8EncodeChar c).length) (pieces r) with
        | error fault => rw [tail] at h; cases h
        | ok cs' =>
          rw [tail] at h
          cases h
          obtain ⟨bs, rfl, spelled⟩ := spells_of_piece first
          have rest_eq : encodeChars cs' = r := ih _ cs' tail
          rw [encodeChars, List.flatMap_cons, ← spelled.eq_utf8EncodeChar, ← rest_eq]
          rfl

/-- The strict decoder reads back what is encoded. -/
theorem decode_encode (s : String) : decode (encode s) = .ok s := by
  rw [decode, encode, pieces_encodeChars, scalars_map]
  simp [Except.map]

/-- The strict decoder accepts what the encoder writes and nothing else. -/
theorem decode_eq_ok_iff {bs : Octets} {s : String} : decode bs = .ok s ↔ encode s = bs := by
  refine ⟨fun h => ?_, fun h => h ▸ decode_encode s⟩
  rw [decode] at h
  cases read : scalars 0 (pieces bs) with
  | error fault => rw [read] at h; cases h
  | ok cs =>
    rw [read] at h
    cases h
    rw [encode, String.toList_ofList]
    exact encodeChars_of_scalars bs 0 cs read

end Utf8

/-! ## One octet for each character -/

namespace Latin1

/-- The code points of a text in Latin-1 are its octets. -/
theorem map_toNat_decode (bs : Octets) : (decode bs).toList.map Char.toNat = bs.map UInt8.toNat := by
  rw [decode, String.toList_ofList, List.map_map]
  refine List.map_congr_left fun b _ => Utf8.toNat_ofNat ?_
  have := b.toNat_lt
  omega

theorem mapM_octet {cs : List Char} (h : ∀ c ∈ cs, c.toNat < 256) :
    cs.mapM (fun c => if c.toNat < 256 then some c.toNat.toUInt8 else none) =
      some (cs.map fun c => c.toNat.toUInt8) := by
  induction cs with
  | nil => rfl
  | cons c cs ih =>
    rw [List.mapM_cons, if_pos (h c List.mem_cons_self), ih fun d hd => h d (List.mem_cons_of_mem _ hd)]
    rfl

/-- A text of code points below 256 has octets, and is read back from them. -/
theorem exists_encode? {s : String} (h : ∀ c ∈ s.toList, c.toNat < 256) :
    ∃ bs, encode? s = some bs ∧ decode bs = s := by
  refine ⟨_, mapM_octet h, ?_⟩
  have same : (s.toList.map fun c => c.toNat.toUInt8).map (fun b => Char.ofNat b.toNat) = s.toList := by
    rw [List.map_map]
    refine (List.map_congr_left fun c hc => ?_).trans (List.map_id _)
    have octet : c.toNat.toUInt8.toNat = c.toNat := UInt8.toNat_ofNat_of_lt' (h c hc)
    exact (congrArg Char.ofNat octet).trans (Char.ofNat_toNat c)
  rw [decode, same, String.ofList_toList]

end Latin1

end TopicRelay.Text
