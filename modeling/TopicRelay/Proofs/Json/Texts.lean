/-
Reading what has been written. The written form of a value is read as the node of the value, and the
reader stops behind it, whatever delimiter follows; the depth has to suffice for the value, and each of
its numbers has to be read back from its own text. Items and members that stand in front of others are read one by one, so what
a reader has seen of an array or object does not depend on what comes later.
-/
import TopicRelay.Json.Reader
import TopicRelay.Proofs.Json.Numerals
import TopicRelay.Proofs.Json.Values

namespace TopicRelay.Json

open TopicRelay.Decimal TopicRelay.Text

variable {rest : List Char}

/-- Fuel for a text is enough for the pieces in front of it, and for one step more. -/
theorem exists_fuel {α : Type} {f : α → List Char} (h : ∀ a, f a ≠ []) (as : List α) (cs : List Char) :
    ∃ fuel, (as.flatMap f ++ cs).length + 1 = as.length + (fuel + 1) := by
  induction as with
  | nil => exact ⟨cs.length, by simp⟩
  | cons a as ih =>
    obtain ⟨fuel, enough⟩ := ih
    have := List.length_pos_iff.2 (h a)
    refine ⟨(f a).length - 1 + fuel, ?_⟩
    simp only [List.flatMap_cons, List.length_append, List.length_cons] at enough ⊢
    omega

/-! ## Strings -/

/-- The characters with an escape of two letters, and the second letter. -/
def shortEscapes : List (Char × Char) := [
  ('"', '"'), ('\\', '\\'), ('\x08', 'b'), ('\x0c', 'f'), ('\n', 'n'), ('\r', 'r'), ('\t', 't')]

/-- A character is written as a short escape, as the escape of its number, or as it is. -/
theorem escape_cases (c : Char) :
    (∃ e, (c, e) ∈ shortEscapes ∧ escape c = ['\\', e]) ∨
      (c.toNat < 0x20 ∧ escape c =
        ['\\', 'u', '0', '0', digitChar (c.toNat / 16), digitChar (c.toNat % 16)]) ∨
      (c ≠ '"' ∧ c ≠ '\\' ∧ 0x20 ≤ c.toNat ∧ escape c = [c]) := by
  unfold escape
  (repeat' split) <;> rename_i h
  iterate 7
    · obtain rfl := eq_of_beq h
      exact .inl ⟨_, by decide, rfl⟩
  · exact .inr (.inl ⟨h, rfl⟩)
  · rename_i notQuote notBackslash _ _ _ _ _
    exact .inr (.inr ⟨by simpa using notQuote, by simpa using notBackslash, Nat.le_of_not_lt h, rfl⟩)

theorem escape_ne_nil (c : Char) : escape c ≠ [] := by
  rcases escape_cases c with ⟨e, -, written⟩ | ⟨-, written⟩ | ⟨-, -, -, written⟩ <;>
    exact written ▸ List.cons_ne_nil _ _

theorem readUnicode?_control (n : Nat) (h : n < 32) (tail : List Char) :
    readUnicode? ('0' :: '0' :: digitChar (n / 16) :: digitChar (n % 16) :: tail) =
      some (Char.ofNat n, tail) := by
  have hex : readHex4? ('0' :: '0' :: digitChar (n / 16) :: digitChar (n % 16) :: tail) =
      some (n, tail) := by
    have zero : hexValue? '0' = some 0 := by decide
    simp only [readHex4?, zero, hexValue?_digitChar _ (show n / 16 < 16 by omega),
      hexValue?_digitChar _ (show n % 16 < 16 by omega), Option.bind_eq_bind, Option.bind_some,
      Option.pure_def, Option.some.injEq, Prod.mk.injEq, and_true]
    omega
  have low : (0xDC00 ≤ n && n ≤ 0xDFFF) = false ∧ (0xD800 ≤ n && n ≤ 0xDBFF) = false := by
    simp only [Bool.and_eq_false_iff, decide_eq_false_iff_not]
    omega
  rw [readUnicode?, hex, Option.bind_eq_bind, Option.bind_some]
  simp only [low, Bool.false_eq_true, if_false]

/-- A two-letter escape is read as the character it stands for. -/
theorem readChars?_of_unescape? {e c : Char} (h : unescape? e = some c) (fuel : Nat)
    (tail : List Char) :
    readChars? (fuel + 1) ('\\' :: e :: tail) =
      (readChars? fuel tail).map fun (cs, r) => (c :: cs, r) := by
  have notU : e ≠ 'u' := by
    rintro rfl
    cases h
  rw [readChars?, if_neg (by decide), if_pos (by decide)]
  · rw [h, Option.map_eq_bind]
    rfl
  · exact notU

/-- One written character is read as that character. -/
theorem readChars?_escape (fuel : Nat) (c : Char) (tail : List Char) :
    readChars? (fuel + 1) (escape c ++ tail) =
      (readChars? fuel tail).map fun (cs, r) => (c :: cs, r) := by
  rcases escape_cases c with ⟨e, short, written⟩ | ⟨control, written⟩ |
    ⟨notQuote, notBackslash, visible, written⟩
  · have unescaped : ∀ p ∈ shortEscapes, unescape? p.2 = some p.1 := by decide
    rw [written]
    exact readChars?_of_unescape? (unescaped _ short) fuel tail
  · rw [written]
    simp only [List.cons_append, List.nil_append]
    rw [readChars?, if_neg (by decide), if_pos (by decide), readUnicode?_control _ control,
      Char.ofNat_toNat, Option.map_eq_bind]
    rfl
  · rw [written, List.singleton_append, readChars?.eq_def]
    dsimp only
    rw [if_neg (by simpa using notQuote), if_neg (by simpa using notBackslash),
      if_neg (Nat.not_lt.2 visible), Option.map_eq_bind]
    rfl

/-- A written string is read as that string, whatever follows its closing quote. -/
theorem readChars?_flatMap_escape (cs : List Char) {fuel : Nat} (h : cs.length < fuel) :
    readChars? fuel (cs.flatMap escape ++ '"' :: rest) = some (cs, rest) := by
  induction cs generalizing fuel with
  | nil =>
    obtain ⟨fuel, rfl⟩ := Nat.exists_eq_add_of_lt h
    rfl
  | cons c cs ih =>
    cases fuel with
    | zero => cases h
    | succ fuel =>
      rw [List.flatMap_cons, List.append_assoc, readChars?_escape, ih (Nat.lt_of_succ_lt_succ h)]
      rfl

theorem readText?_escape (s : String) :
    readText? (s.toList.flatMap escape ++ '"' :: rest) = some (s, rest) := by
  obtain ⟨fuel, enough⟩ := exists_fuel escape_ne_nil s.toList ('"' :: rest)
  rw [readText?, readChars?_flatMap_escape _ (by omega), Option.map_some]
  exact congrArg (fun s => some (s, rest)) String.ofList_toList

theorem writeText_append (s : String) :
    writeText s ++ rest = '"' :: (s.toList.flatMap escape ++ '"' :: rest) := by
  simp [writeText]

/-! ## Written arrays and objects -/

/-- A written member. -/
def writeMember (m : String × Value) : List Char :=
  writeText m.1 ++ ':' :: m.2.write

theorem write_array_append (before : List Value) (v : Value) (after : List Value) :
    (Value.array (before ++ v :: after)).write =
      '[' :: (before.flatMap (fun v => v.write ++ [',']) ++ (v.write ++ writeItems after)) := by
  have items : ∀ before, writeItems (before ++ v :: after) =
      ',' :: (before.flatMap (fun v => v.write ++ [',']) ++ (v.write ++ writeItems after)) := by
    intro before
    induction before with
    | nil => rfl
    | cons w ws ih => simp [writeItems, ih]
  cases before with
  | nil => rfl
  | cons w ws => simp [Value.write, items]

theorem write_object_append (before : List (String × Value)) (m : String × Value)
    (after : List (String × Value)) :
    (Value.object (before ++ m :: after)).write =
      '\x7b' :: (before.flatMap (fun m => writeMember m ++ [',']) ++
        (writeMember m ++ writeMembers after)) := by
  have members : ∀ before, writeMembers (before ++ m :: after) =
      ',' :: (before.flatMap (fun m => writeMember m ++ [',']) ++
        (writeMember m ++ writeMembers after)) := by
    intro before
    induction before with
    | nil => simp [writeMembers, writeMember]
    | cons w ws ih => simp [writeMembers, writeMember, ih]
  cases before with
  | nil => simp [Value.write, writeMember]
  | cons w ws => simp [Value.write, writeMember, members]

theorem skipBlanks_cons {c : Char} (h : isBlank c = false) :
    skipBlanks (c :: rest) = c :: rest := by
  rw [skipBlanks, List.dropWhile_cons_of_neg (by simp [h])]

/-- A text that starts neither with a blank nor with the end of an array or object. -/
def Opens (cs : List Char) : Prop :=
  ∃ c r, cs = c :: r ∧ isBlank c = false ∧ c ≠ ']' ∧ c ≠ '\x7d'

theorem opens_cons {c : Char} (blank : isBlank c = false) (h : c ≠ ']') (h' : c ≠ '\x7d')
    (r : List Char) : Opens (c :: r) :=
  ⟨c, r, rfl, blank, h, h'⟩

theorem Opens.append {cs : List Char} (h : Opens cs) (r : List Char) : Opens (cs ++ r) := by
  obtain ⟨c, cs, rfl, blank, h, h'⟩ := h
  exact opens_cons blank h h' (cs ++ r)

theorem Opens.skipBlanks_eq {cs : List Char} (h : Opens cs) : skipBlanks cs = cs := by
  obtain ⟨c, cs, rfl, blank, -, -⟩ := h
  exact skipBlanks_cons blank

theorem opens_flatMap {α : Type} {f : α → List Char} {as : List α} (opens : ∀ a ∈ as, Opens (f a))
    {cs : List Char} (start : Opens cs) : Opens (as.flatMap f ++ cs) := by
  cases as with
  | nil => exact start
  | cons a as =>
    rw [List.flatMap_cons, List.append_assoc]
    exact (opens a List.mem_cons_self).append _

theorem opens_writeMember (m : String × Value) : Opens (writeMember m) :=
  opens_cons (by decide) (by decide) (by decide) _

theorem isBlank_of_isDigit {c : Char} (h : c.isDigit = true) : isBlank c = false := by
  rw [Bool.eq_false_iff]
  intro blank
  simp only [isBlank, Bool.or_eq_true, beq_iff_eq] at blank
  rcases blank with ((rfl | rfl) | rfl) | rfl <;> cases h

theorem opens_of_numeral {cs : List Char} {x : Number × List Char} (h : readNumber? cs = some x) :
    Opens cs := by
  obtain ⟨c, r, rfl, rfl | digit⟩ := exists_cons_of_readNumber? h
  · exact opens_cons (by decide) (by decide) (by decide) r
  · refine opens_cons (isBlank_of_isDigit digit) ?_ ?_ r <;> rintro rfl <;> cases digit

theorem readsBack_of_natural {P : String → Prop} {n : Number} (h : (naturals P).number n) :
    n.ReadsBack := by
  obtain ⟨k, small, rfl⟩ := h
  have limits : leastInteger ≤ 0 ∧ greatestInteger + 1 = twoTo 64 := by decide
  exact (Number.Whole.integer (by omega) (by omega)).readsBack

theorem Value.Over.opens {V : Vocabulary} {v : Value} (h : v.Over V)
    (back : ∀ n, V.number n → n.ReadsBack) : Opens v.write := by
  cases h with
  | null => exact opens_cons (by decide) (by decide) (by decide) _
  | bool b => cases b <;> exact opens_cons (by decide) (by decide) (by decide) _
  | number h => exact opens_of_numeral (back _ h)
  | text => exact opens_cons (by decide) (by decide) (by decide) _
  | @array items =>
    cases items <;> exact opens_cons (by decide) (by decide) (by decide) _
  | @object members =>
    cases members <;> exact opens_cons (by decide) (by decide) (by decide) _

/-! ## Items and members in front of others -/

section

variable {read : List Char → Reading}

/-- A reader reads a value wherever a delimiter follows it. -/
def Reads (read : List Char → Reading) (v : Value) : Prop :=
  ∀ rest, Delimited rest → read (v.write ++ rest) = (Node.ofValue v, some rest)

/-- Items in front of others are read first. -/
theorem readItems_append {before : List Value} (h : ∀ v ∈ before, Reads read v) (fuel : Nat)
    (cs : List Char) :
    readItems read (before.length + fuel) (before.flatMap (fun v => v.write ++ [',']) ++ cs) =
      (before.map Node.ofValue ++ (readItems read fuel cs).1, (readItems read fuel cs).2) := by
  induction before with
  | nil => rw [List.length_nil, Nat.zero_add]; rfl
  | cons v vs ih =>
    have first := h v List.mem_cons_self
      (',' :: (vs.flatMap (fun v => v.write ++ [',']) ++ cs)) (delimited_cons (by decide) _)
    rw [List.length_cons, Nat.add_right_comm, List.flatMap_cons, List.append_assoc, List.append_assoc,
      List.singleton_append, readItems, first]
    have comma (r : List Char) : skipBlanks (',' :: r) = ',' :: r := rfl
    simp only [comma, ih fun w hw => h w (List.mem_cons_of_mem _ hw), List.map_cons, List.cons_append]

/-- The first item is what the reader makes of the text. -/
theorem readItems_first (read : List Char → Reading) (fuel : Nat) (cs : List Char) :
    ∃ ns, (readItems read (fuel + 1) cs).1 = (read cs).1 :: ns := by
  rw [readItems]
  split
  · rename_i n read
    exact ⟨[], by rw [read]⟩
  · rename_i n r read
    rw [read]
    split <;> exact ⟨_, rfl⟩

/-- The last item ends at the closing bracket. -/
theorem readItems_last {v : Value} (h : Reads read v) (fuel : Nat) :
    readItems read (fuel + 1) (v.write ++ ']' :: rest) = ([Node.ofValue v], some rest) := by
  rw [readItems, h _ (delimited_cons (by decide) _)]
  rfl

theorem readMembers_of_comma {name : String} {cs r : List Char} {n : Node}
    (h : read cs = (n, some (',' :: r))) (fuel : Nat) :
    readMembers read (fuel + 1) (writeText name ++ ':' :: cs) =
      ((name, n) :: (readMembers read fuel r).1, (readMembers read fuel r).2) := by
  rw [readMembers, writeText_append]
  simp only [skipBlanks_cons (show isBlank '"' = false from rfl), readText?_escape,
    skipBlanks_cons (show isBlank ':' = false from rfl), h,
    skipBlanks_cons (show isBlank ',' = false from rfl)]

theorem readMembers_of_brace {name : String} {cs r : List Char} {n : Node}
    (h : read cs = (n, some ('\x7d' :: r))) (fuel : Nat) :
    readMembers read (fuel + 1) (writeText name ++ ':' :: cs) = ([(name, n)], some r) := by
  rw [readMembers, writeText_append]
  simp only [skipBlanks_cons (show isBlank '"' = false from rfl), readText?_escape,
    skipBlanks_cons (show isBlank ':' = false from rfl), h,
    skipBlanks_cons (show isBlank '\x7d' = false from rfl)]

/-- Members in front of others are read first. -/
theorem readMembers_append {before : List (String × Value)} (h : ∀ m ∈ before, Reads read m.2)
    (fuel : Nat) (cs : List Char) :
    readMembers read (before.length + fuel) (before.flatMap (fun m => writeMember m ++ [',']) ++ cs) =
      (before.map (fun m => (m.1, Node.ofValue m.2)) ++ (readMembers read fuel cs).1,
        (readMembers read fuel cs).2) := by
  induction before with
  | nil => rw [List.length_nil, Nat.zero_add]; rfl
  | cons m ms ih =>
    have first := h m List.mem_cons_self
      (',' :: (ms.flatMap (fun m => writeMember m ++ [',']) ++ cs)) (delimited_cons (by decide) _)
    rw [List.length_cons, Nat.add_right_comm, List.flatMap_cons, writeMember]
    simp only [List.append_assoc, List.cons_append, List.nil_append]
    rw [readMembers_of_comma first, ih fun w hw => h w (List.mem_cons_of_mem _ hw), List.map_cons,
      List.cons_append]

/-- The first member has the name as it is written and what the reader makes of the text behind it. -/
theorem readMembers_first (read : List Char → Reading) (fuel : Nat) (name : String) (cs : List Char) :
    ∃ ms, (readMembers read (fuel + 1) (writeText name ++ ':' :: cs)).1 = (name, (read cs).1) :: ms := by
  rw [readMembers, writeText_append]
  simp only [skipBlanks_cons (show isBlank '"' = false from rfl), readText?_escape,
    skipBlanks_cons (show isBlank ':' = false from rfl)]
  split
  · rename_i n read
    exact ⟨[], by rw [read]⟩
  · rename_i n r read
    rw [read]
    split <;> exact ⟨_, rfl⟩

/-- The last member ends at the closing brace. -/
theorem readMembers_last {m : String × Value} (h : Reads read m.2) (fuel : Nat) :
    readMembers read (fuel + 1) (writeMember m ++ '\x7d' :: rest) =
      ([(m.1, Node.ofValue m.2)], some rest) := by
  rw [writeMember, List.append_assoc, List.cons_append,
    readMembers_of_brace (h _ (delimited_cons (by decide) _))]

end

/-! ## Values -/

section

variable {d : Nat}

theorem readNode_array {cs : List Char} (h : Opens cs) :
    readNode (d + 1) ('[' :: cs) =
      (.array (readItems (readNode d) (cs.length + 1) cs).1
        (readItems (readNode d) (cs.length + 1) cs).2.isSome,
        (readItems (readNode d) (cs.length + 1) cs).2) := by
  have bracket (r : List Char) : skipBlanks ('[' :: r) = '[' :: r := rfl
  rw [readNode]
  simp only [bracket, h.skipBlanks_eq]
  obtain ⟨c, r, rfl, -, notEnd, -⟩ := h
  split
  · rename_i same
    exact absurd (List.cons.inj same).1 notEnd
  · rfl

theorem readNode_object {cs : List Char} (h : Opens cs) :
    readNode (d + 1) ('\x7b' :: cs) =
      (.object (readMembers (readNode d) (cs.length + 1) cs).1
        (readMembers (readNode d) (cs.length + 1) cs).2.isSome,
        (readMembers (readNode d) (cs.length + 1) cs).2) := by
  have brace (r : List Char) : skipBlanks ('\x7b' :: r) = '\x7b' :: r := rfl
  rw [readNode]
  simp only [brace, h.skipBlanks_eq]
  obtain ⟨c, r, rfl, -, -, notEnd⟩ := h
  split
  · rename_i same
    exact absurd (List.cons.inj same).1 notEnd
  · rfl

/-- An item behind others is among the items that are read, whatever follows it. -/
theorem exists_item {before : List Value} (h : ∀ v ∈ before, Reads (readNode d) v)
    (opens : ∀ v ∈ before, Opens v.write) {v : Value} (start : Opens v.write) (after : List Value) :
    ∃ items closed, (readNode (d + 1) ((Value.array (before ++ v :: after)).write ++ rest)).1 =
        .array items closed ∧ (readNode d (v.write ++ (writeItems after ++ rest))).1 ∈ items := by
  have first : Opens (before.flatMap (fun v => v.write ++ [',']) ++
      (v.write ++ (writeItems after ++ rest))) :=
    opens_flatMap (fun v hv => (opens v hv).append _) (start.append _)
  obtain ⟨fuel, enough⟩ := exists_fuel (fun v : Value => List.append_ne_nil_of_right_ne_nil v.write
    (List.cons_ne_nil ',' [])) before (v.write ++ (writeItems after ++ rest))
  obtain ⟨items, read⟩ := readItems_first (readNode d) fuel (v.write ++ (writeItems after ++ rest))
  rw [write_array_append, List.cons_append, List.append_assoc, List.append_assoc, readNode_array first,
    enough, readItems_append h, read]
  exact ⟨_, _, rfl, List.mem_append_right _ List.mem_cons_self⟩

/-- A member behind others is among the members that are read, whatever follows it. -/
theorem exists_member {before : List (String × Value)} (h : ∀ m ∈ before, Reads (readNode d) m.2)
    (name : String) (v : Value) (after : List (String × Value)) :
    ∃ members closed,
      (readNode (d + 1) ((Value.object (before ++ (name, v) :: after)).write ++ rest)).1 =
        .object members closed ∧
          (name, (readNode d (v.write ++ (writeMembers after ++ rest))).1) ∈ members := by
  have first : Opens (before.flatMap (fun m => writeMember m ++ [',']) ++
      (writeMember (name, v) ++ (writeMembers after ++ rest))) :=
    opens_flatMap (fun m _ => (opens_writeMember m).append _) ((opens_writeMember _).append _)
  obtain ⟨fuel, enough⟩ := exists_fuel (fun m => List.append_ne_nil_of_right_ne_nil (writeMember m)
    (List.cons_ne_nil ',' [])) before (writeMember (name, v) ++ (writeMembers after ++ rest))
  obtain ⟨members, read⟩ := readMembers_first (readNode d) fuel name
    (v.write ++ (writeMembers after ++ rest))
  rw [write_object_append, List.cons_append, List.append_assoc, List.append_assoc,
    readNode_object first, enough, readMembers_append h, writeMember, List.append_assoc,
    List.cons_append, read]
  exact ⟨_, _, rfl, List.mem_append_right _ List.mem_cons_self⟩

theorem readNode_text (s : String) : readNode d (writeText s ++ rest) = (.text s, some rest) := by
  have quote (r : List Char) : skipBlanks ('"' :: r) = '"' :: r := rfl
  unfold readNode
  rw [writeText_append]
  simp only [quote, readText?_escape]

theorem readNode_numeral {cs r : List Char} {n : Number} (read : readNumber? cs = some (n, r)) :
    readNode d cs = (.number n, some r) := by
  obtain ⟨c, r', rfl, first⟩ := exists_cons_of_readNumber? read
  have numeral : (c == '-' || c.isDigit) = true := by simpa using first
  have others : c ∉ ['n', 't', 'f', '"', '[', '\x7b'] := by
    intro h
    simp only [List.mem_cons, List.not_mem_nil, or_false] at h
    rcases h with rfl | rfl | rfl | rfl | rfl | rfl <;> simp at first
  unfold readNode
  rw [(opens_of_numeral read).skipBlanks_eq]
  split <;> rename_i same
  case h_1 => cases same
  case h_8 =>
    obtain ⟨rfl, rfl⟩ := List.cons.inj same
    rw [if_pos numeral, read]
  all_goals
    obtain ⟨rfl, -⟩ := List.cons.inj same
    exact absurd (by decide) others

theorem readNode_null : readNode d (Value.null.write ++ rest) = (.null, some rest) := by
  unfold readNode
  rfl

theorem readNode_bool (b : Bool) :
    readNode d ((Value.bool b).write ++ rest) = (.bool b, some rest) := by
  unfold readNode
  cases b <;> rfl

/-- Items that are read one by one are read as an array. -/
theorem reads_array {items : List Value} (h : ∀ v ∈ items, Reads (readNode d) v)
    (opens : ∀ v ∈ items, Opens v.write) : Reads (readNode (d + 1)) (.array items) := by
  intro rest ends
  rcases List.eq_nil_or_concat items with rfl | ⟨before, last, rfl⟩
  · unfold readNode
    rfl
  · rw [List.concat_eq_append] at h opens ⊢
    have start : Opens (before.flatMap (fun v => v.write ++ [',']) ++ (last.write ++ ']' :: rest)) :=
      opens_flatMap (fun v hv => (opens v (List.mem_append_left _ hv)).append _)
        ((opens last (by simp)).append _)
    obtain ⟨fuel, enough⟩ := exists_fuel (fun v : Value => List.append_ne_nil_of_right_ne_nil v.write
      (List.cons_ne_nil ',' [])) before (last.write ++ ']' :: rest)
    rw [write_array_append, writeItems, List.cons_append, List.append_assoc, List.append_assoc,
      List.singleton_append, readNode_array start, enough,
      readItems_append fun v hv => h v (List.mem_append_left _ hv), readItems_last (h last (by simp)),
      Node.ofValue, Node.ofValues_eq_map, List.map_append]
    rfl

/-- Members that are read one by one are read as an object. -/
theorem reads_object {members : List (String × Value)} (h : ∀ m ∈ members, Reads (readNode d) m.2) :
    Reads (readNode (d + 1)) (.object members) := by
  intro rest ends
  rcases List.eq_nil_or_concat members with rfl | ⟨before, last, rfl⟩
  · unfold readNode
    rfl
  · rw [List.concat_eq_append] at h ⊢
    have start : Opens (before.flatMap (fun m => writeMember m ++ [',']) ++
        (writeMember last ++ '\x7d' :: rest)) :=
      opens_flatMap (fun m _ => (opens_writeMember m).append _) ((opens_writeMember last).append _)
    obtain ⟨fuel, enough⟩ := exists_fuel (fun m => List.append_ne_nil_of_right_ne_nil (writeMember m)
      (List.cons_ne_nil ',' [])) before (writeMember last ++ '\x7d' :: rest)
    rw [write_object_append, writeMembers, List.cons_append, List.append_assoc, List.append_assoc,
      List.singleton_append, readNode_object start, enough,
      readMembers_append fun m hm => h m (List.mem_append_left _ hm), readMembers_last (h last (by simp)),
      Node.ofValue, Node.ofMembers_eq_map, List.map_append]
    rfl

/-- A value whose numbers are read back and that does not nest too deep is read as it is written. -/
theorem readNode_write {V : Vocabulary} {v : Value} (h : v.Over V)
    (back : ∀ n, V.number n → n.ReadsBack) (deep : v.depth ≤ d) : Reads (readNode d) v := by
  induction h generalizing d with
  | null => exact fun rest _ => readNode_null
  | bool b => exact fun rest _ => readNode_bool b
  | @number n h =>
    intro rest ends
    refine readNode_numeral ?_
    rw [Value.write, readNumber?_append ends, back n h]
    rfl
  | text => exact fun rest _ => readNode_text _
  | @array items made ih =>
    obtain ⟨d, rfl, within⟩ := Value.exists_depth_array deep
    exact reads_array (fun v hv => ih v hv (within v hv)) fun v hv => (made v hv).opens back
  | @object members _ _ made ih =>
    obtain ⟨d, rfl, within⟩ := Value.exists_depth_object deep
    exact reads_object fun m hm => ih m hm (within m hm)

end

/-! ## Whole texts -/

/-- A numeral on its own is read as its number. -/
theorem parse?_numeral {cs : List Char} {n : Number} (read : readNumber? cs = some (n, [])) :
    parse? (String.ofList cs) = some (.number n) := by
  rw [parse?, String.toList_ofList, readText, readNode_numeral read]
  rfl

/-- The written form of a value is the text of its node. -/
theorem readText_write {V : Vocabulary} {v : Value} (h : v.Over V)
    (back : ∀ n, V.number n → n.ReadsBack) (deep : v.depth ≤ depthLimit) :
    readText v.write = (.ofValue v, true) := by
  have read := readNode_write h back deep [] delimited_nil
  rw [List.append_nil] at read
  rw [readText, read]
  rfl

/-- The written form of a value is read as that value. -/
theorem parse?_render {V : Vocabulary} {v : Value} (h : v.Over V)
    (back : ∀ n, V.number n → n.ReadsBack) (ordered : ∀ names, V.names names → Ascending names)
    (deep : v.depth ≤ depthLimit) : parse? v.render = some v := by
  rw [parse?, Value.render, String.toList_ofList, readText_write h back deep]
  exact Node.value?_ofValue h ordered

end TopicRelay.Json
