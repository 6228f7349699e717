/-
The strings of JSON texts as strings of JSON5. Every character is written so that it can be read, but for
the separators of lines and paragraphs, U+2028 and U+2029: JSON writes them as they are, and no string
of JSON5 may hold them.
-/
import TopicRelay.Json5.Tree
import TopicRelay.Proofs.Json.Texts

namespace TopicRelay.Json5

open TopicRelay.Text
open TopicRelay.Json (escape escape_cases escape_ne_nil exists_fuel shortEscapes writeText
  writeText_append)

variable {rest : List Char}

/-- A text without the separators of lines and paragraphs. -/
def Plain (s : String) : Prop :=
  ∀ c ∈ s.toList, c.toNat ≠ 0x2028 ∧ c.toNat ≠ 0x2029

instance : DecidablePred Plain := fun s =>
  List.decidableBAll (fun c : Char => c.toNat ≠ 0x2028 ∧ c.toNat ≠ 0x2029) s.toList

/-- A component that a written character is read as: it stands for the character by itself. -/
structure Component.Spells (k : Component) (c : Char) : Prop where
  read : ∀ fuel tail, readComponents? '"' (fuel + 1) (escape c ++ tail) =
    (readComponents? '"' fuel tail).map fun p => (k :: p.1, p.2)
  join : ∀ ks, joinComponents (k :: ks) = (joinComponents ks).map (c :: ·)

theorem spells_of_escaped {e c : Char} (written : escape c = ['\\', e])
    (step : ∀ tail, readEscape? (e :: tail) = some (some (.escaped e), tail)) (h : unescape e = c) :
    (Component.escaped e).Spells c where
  read fuel tail := by
    rw [written, List.cons_append, List.singleton_append, readComponents?, if_neg (by decide),
      if_pos (by decide), step, Option.map_eq_bind]
    rfl
  join ks := by rw [joinComponents, h]

theorem hexNumber?_control (n : Nat) (h : n < 32) :
    hexNumber? ['0', '0', digitChar (n / 16), digitChar (n % 16)] = some n := by
  have zero : hexValue? '0' = some 0 := by decide
  simp only [hexNumber?, List.foldl_cons, List.foldl_nil, Option.bind_some, zero, Option.map_some,
    hexValue?_digitChar _ (show n / 16 < 16 by omega), hexValue?_digitChar _ (show n % 16 < 16 by omega)]
  exact congrArg some (by omega)

theorem spells_of_control {c : Char} (h : c.toNat < 0x20)
    (written : escape c =
      ['\\', 'u', '0', '0', digitChar (c.toNat / 16), digitChar (c.toNat % 16)]) :
    (Component.unicode ['0', '0', digitChar (c.toNat / 16), digitChar (c.toNat % 16)]).Spells c where
  read fuel tail := by
    have step : readEscape? ('u' :: '0' :: '0' :: digitChar (c.toNat / 16) ::
        digitChar (c.toNat % 16) :: tail) =
          some (some (.unicode ['0', '0', digitChar (c.toNat / 16), digitChar (c.toNat % 16)]), tail) := by
      have zero : hexValue? '0' = some 0 := by decide
      simp [readEscape?, takeHex?, zero, hexValue?_digitChar _ (show c.toNat / 16 < 16 by omega),
        hexValue?_digitChar _ (show c.toNat % 16 < 16 by omega)]
    rw [written]
    simp only [List.cons_append, List.nil_append]
    rw [readComponents?, if_neg (by decide), if_pos (by decide), step, Option.map_eq_bind]
    rfl
  join ks := by
    rw [joinComponents, hexNumber?_control _ h]
    have low : (0xDC00 ≤ c.toNat && c.toNat ≤ 0xDFFF) = false ∧
        (0xD800 ≤ c.toNat && c.toNat ≤ 0xDBFF) = false := by
      simp only [Bool.and_eq_false_iff, decide_eq_false_iff_not]
      omega
    simp only [low, Bool.false_eq_true, if_false, Char.ofNat_toNat]

theorem isLineEnd_eq_false {c : Char} (visible : 0x20 ≤ c.toNat)
    (h : c.toNat ≠ 0x2028 ∧ c.toNat ≠ 0x2029) : isLineEnd c = false := by
  have notFeed : c ≠ '\n' := by
    rintro rfl
    exact absurd visible (by decide)
  have notReturn : c ≠ '\r' := by
    rintro rfl
    exact absurd visible (by decide)
  simp [isLineEnd, notFeed, notReturn, h]

theorem spells_of_literal {c : Char} (written : escape c = [c]) (quote : c ≠ '"')
    (backslash : c ≠ '\\') (stays : isLineEnd c = false) : (Component.literal c).Spells c where
  read fuel tail := by
    rw [written, List.singleton_append, readComponents?, if_neg (by simpa using quote),
      if_neg (by simpa using backslash), if_neg (by simp [stays]), Option.map_eq_bind]
    rfl
  join ks := by rw [joinComponents]

/-- A character that is not a separator is written so that it can be read. -/
theorem exists_spells {c : Char} (h : c.toNat ≠ 0x2028 ∧ c.toNat ≠ 0x2029) :
    ∃ k : Component, k.Spells c := by
  rcases escape_cases c with ⟨e, short, written⟩ | ⟨control, written⟩ |
    ⟨notQuote, notBackslash, visible, written⟩
  · refine ⟨.escaped e, spells_of_escaped written (fun tail => ?_) ?_⟩
    · simp only [shortEscapes, List.mem_cons, Prod.mk.injEq, List.not_mem_nil, or_false] at short
      rcases short with ⟨-, rfl⟩ | ⟨-, rfl⟩ | ⟨-, rfl⟩ | ⟨-, rfl⟩ | ⟨-, rfl⟩ | ⟨-, rfl⟩ | ⟨-, rfl⟩ <;> rfl
    · have unescaped : ∀ p ∈ shortEscapes, unescape p.2 = p.1 := by decide
      exact unescaped _ short
  · exact ⟨_, spells_of_control control written⟩
  · exact ⟨_, spells_of_literal written notQuote notBackslash (isLineEnd_eq_false visible h)⟩

/-- A separator is written as it is, which no string may hold. -/
theorem readComponents?_separator {c : Char} (h : c.toNat = 0x2028 ∨ c.toNat = 0x2029) (fuel : Nat)
    (tail : List Char) : readComponents? '"' (fuel + 1) (escape c ++ tail) = none := by
  rcases escape_cases c with ⟨e, short, -⟩ | ⟨control, -⟩ | ⟨notQuote, notBackslash, -, written⟩
  · have low : ∀ p ∈ shortEscapes, p.1.toNat < 0x80 := by decide
    have : c.toNat < 0x80 := low _ short
    omega
  · omega
  · have ends : isLineEnd c = true := by rcases h with h | h <;> simp [isLineEnd, h]
    rw [written, List.singleton_append, readComponents?, if_neg (by simpa using notQuote),
      if_neg (by simpa using notBackslash), if_pos ends]

/-- A written string without separators is read as components that stand for it. -/
theorem exists_readComponents? {cs : List Char} (h : ∀ c ∈ cs, c.toNat ≠ 0x2028 ∧ c.toNat ≠ 0x2029)
    {fuel : Nat} (enough : cs.length < fuel) :
    ∃ ks, readComponents? '"' fuel (cs.flatMap escape ++ '"' :: rest) = some (ks, rest) ∧
      joinComponents ks = .ok cs := by
  induction cs generalizing fuel with
  | nil =>
    obtain ⟨fuel, rfl⟩ := Nat.exists_eq_add_of_lt enough
    exact ⟨[], rfl, rfl⟩
  | cons c cs ih =>
    cases fuel with
    | zero => cases enough
    | succ fuel =>
      obtain ⟨k, spelt⟩ := exists_spells (h c List.mem_cons_self)
      obtain ⟨ks, read, joined⟩ :=
        ih (fun d hd => h d (List.mem_cons_of_mem _ hd)) (Nat.lt_of_succ_lt_succ enough)
      refine ⟨k :: ks, ?_, ?_⟩
      · rw [List.flatMap_cons, List.append_assoc, spelt.read, read]
        rfl
      · rw [spelt.join, joined]
        rfl

/-- A written string with a separator cannot be read. -/
theorem readComponents?_flatMap_escape {cs : List Char}
    (h : ¬ ∀ c ∈ cs, c.toNat ≠ 0x2028 ∧ c.toNat ≠ 0x2029) (fuel : Nat) (tail : List Char) :
    readComponents? '"' fuel (cs.flatMap escape ++ tail) = none := by
  induction cs generalizing fuel with
  | nil => exact absurd nofun h
  | cons c cs ih =>
    cases fuel with
    | zero => rfl
    | succ fuel =>
      rw [List.flatMap_cons, List.append_assoc]
      by_cases own : c.toNat ≠ 0x2028 ∧ c.toNat ≠ 0x2029
      · obtain ⟨k, spelt⟩ := exists_spells own
        rw [spelt.read, ih fun others => h (List.forall_mem_cons.2 ⟨own, others⟩)]
        rfl
      · exact readComponents?_separator (by omega) fuel _

theorem readText?_write (s : String) :
    readText? (writeText s ++ rest) = if Plain s then some (.ok s, rest) else none := by
  rw [writeText_append, readText?]
  split
  · rename_i plain
    obtain ⟨fuel, enough⟩ := exists_fuel escape_ne_nil s.toList ('"' :: rest)
    have bound : s.toList.length < (s.toList.flatMap escape ++ '"' :: rest).length + 1 := by omega
    obtain ⟨ks, read, joined⟩ : ∃ ks, readComponents? '"'
        ((s.toList.flatMap escape ++ '"' :: rest).length + 1) (s.toList.flatMap escape ++ '"' :: rest) =
          some (ks, rest) ∧ joinComponents ks = .ok s.toList := exists_readComponents? plain bound
    have text : join ks = .ok s := by
      rw [join, joined]
      exact congrArg _ String.ofList_toList
    rw [read]
    exact congrArg (fun t => some (t, rest)) text
  · rename_i other
    rw [readComponents?_flatMap_escape other]
    rfl

theorem readKey?_write (s : String) :
    readKey? (writeText s ++ rest) = if Plain s then some (.ok s, rest) else none := by
  have unnamed (cs : List Char) : readName? ('"' :: cs) = none := by
    have start : isNameStart '"' = false := by decide +kernel
    rw [readName?, start]
    · rfl
    · exact fun r h => absurd h (by decide)
  rw [readKey?, ← readText?_write, writeText_append, unnamed]

end TopicRelay.Json5
