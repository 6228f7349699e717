/-
JSON texts as JSON5. A written value is read as its tree, unless one of its texts has a separator in it,
with which it is not read at all; and what stands behind a value that can be read does not change how it
is read.
-/
import TopicRelay.Proofs.Json5.Numerals
import TopicRelay.Proofs.Json5.Strings

namespace TopicRelay.Json5

open TopicRelay.Text
open TopicRelay.Json (Delimited Value Vocabulary delimited_cons delimited_nil writeItems writeMember
  writeMembers writeText writeText_append)

variable {rest : List Char}

/-! ## Blanks -/

/-- A text that starts neither with a blank or a comment nor with the end of an array. -/
def Begins (cs : List Char) : Prop :=
  ∃ c r, cs = c :: r ∧ isBlank c = false ∧ c ≠ '/' ∧ c ≠ ']'

theorem skipAll_cons {c : Char} (blank : isBlank c = false) (slash : c ≠ '/') (r : List Char) :
    skipAll (c :: r) = c :: r := by
  rw [skipAll, List.length_cons]
  unfold skip
  split
  · rename_i h
    exact absurd (List.cons.inj h).1 slash
  · rename_i h
    exact absurd (List.cons.inj h).1 slash
  · rename_i h
    obtain ⟨rfl, rfl⟩ := List.cons.inj h
    rw [blank, if_neg Bool.false_ne_true]
  · rename_i h
    cases h

theorem Begins.skipAll_eq {cs : List Char} (h : Begins cs) : skipAll cs = cs := by
  obtain ⟨c, r, rfl, blank, slash, -⟩ := h
  exact skipAll_cons blank slash r

theorem Begins.append {cs : List Char} (h : Begins cs) (r : List Char) : Begins (cs ++ r) := by
  obtain ⟨c, cs, rfl, h⟩ := h
  exact ⟨c, cs ++ r, rfl, h⟩

theorem begins_cons {c : Char} (blank : isBlank c = false) (h : c ∉ ['/', ']']) (r : List Char) :
    Begins (c :: r) := by
  simp only [List.mem_cons, List.not_mem_nil, or_false, not_or] at h
  exact ⟨c, r, rfl, blank, h⟩

theorem isBlank_of_isDigit {c : Char} (h : c.isDigit = true) : isBlank c = false := by
  have digit : 48 ≤ c.toNat ∧ c.toNat ≤ 57 := by
    simpa [Char.isDigit, Char.le_def, UInt32.le_iff_toNat_le] using h
  have others : c ≠ '\t' ∧ c ≠ ' ' ∧ c ≠ '\n' ∧ c ≠ '\r' := by
    refine ⟨?_, ?_, ?_, ?_⟩ <;> rintro rfl <;> cases h
  rw [Bool.eq_false_iff]
  intro blank
  simp only [isBlank, isLineEnd, Bool.or_eq_true, Bool.and_eq_true, beq_iff_eq, decide_eq_true_eq,
    others, false_or, or_false] at blank
  omega

theorem begins_write {P : String → Prop} {v : Value} (h : v.Over (Json.naturals P)) :
    Begins v.write := by
  cases h with
  | null => exact begins_cons (by decide) (by decide) _
  | bool b => cases b <;> exact begins_cons (by decide) (by decide) _
  | number h =>
    obtain ⟨k, -, rfl⟩ := h
    obtain ⟨c, r, written, digit⟩ := exists_decimal_eq_cons k
    have first : Json.Number.write (.integer k) = c :: r := written
    rw [Value.write, first]
    refine begins_cons (isBlank_of_isDigit digit) (fun h => ?_) r
    simp only [List.mem_cons, List.not_mem_nil, or_false] at h
    rcases h with rfl | rfl <;> cases digit
  | text => exact begins_cons (by decide) (by decide) _
  | @array items => cases items <;> exact begins_cons (by decide) (by decide) _
  | @object members => cases members <;> exact begins_cons (by decide) (by decide) _

/-! ## Trees of values -/

namespace Tree

mutual

/-- The tree of a value. -/
def ofValue : Value → Tree
  | .null => .null
  | .bool b => .bool b
  | .number n => .numeral n.write
  | .text s => .text (.ok s)
  | .array items => .array (ofValues items)
  | .object members => .object (ofMembers members)

/-- The trees of a list of values. -/
def ofValues : List Value → List Tree
  | [] => []
  | v :: vs => ofValue v :: ofValues vs

/-- The trees of the members of an object. -/
def ofMembers : List (String × Value) → List (Joined × Tree)
  | [] => []
  | (name, v) :: ms => (.ok name, ofValue v) :: ofMembers ms

end

theorem ofValues_eq_map (vs : List Value) : ofValues vs = vs.map ofValue := by
  induction vs with
  | nil => rfl
  | cons v vs ih => rw [ofValues, ih, List.map_cons]

theorem ofMembers_eq_map (ms : List (String × Value)) :
    ofMembers ms = ms.map fun m => (.ok m.1, ofValue m.2) := by
  induction ms with
  | nil => rfl
  | cons m ms ih => rw [ofMembers, ih, List.map_cons]

mutual

/-- What a written value is read as: its tree, unless it nests too deep or has a separator in a text. -/
def ofValue? : Nat → Value → Option Tree
  | _, .null => some .null
  | _, .bool b => some (.bool b)
  | _, .number n => some (.numeral n.write)
  | _, .text s => if Plain s then some (.text (.ok s)) else none
  | depth + 1, .array items => (ofValues? depth items).map .array
  | depth + 1, .object members => (ofMembers? depth members).map .object
  | 0, _ => none

/-- What written items are read as. -/
def ofValues? (depth : Nat) : List Value → Option (List Tree)
  | [] => some []
  | v :: vs => (ofValue? depth v).bind fun t => (ofValues? depth vs).map (t :: ·)

/-- What written members are read as. -/
def ofMembers? (depth : Nat) : List (String × Value) → Option (List (Joined × Tree))
  | [] => some []
  | (name, v) :: ms =>
    if Plain name then
      (ofValue? depth v).bind fun t => (ofMembers? depth ms).map ((.ok name, t) :: ·)
    else none

end

variable {d : Nat}

theorem ofValues?_cons (v : Value) (vs : List Value) :
    ofValues? d (v :: vs) = (ofValue? d v).bind fun t => (ofValues? d vs).map (t :: ·) :=
  rfl

theorem ofMembers?_cons (m : String × Value) (ms : List (String × Value)) :
    ofMembers? d (m :: ms) =
      if Plain m.1 then (ofValue? d m.2).bind fun t => (ofMembers? d ms).map ((.ok m.1, t) :: ·)
      else none :=
  rfl

theorem ofValues?_eq_some {vs : List Value} (h : ∀ v ∈ vs, ofValue? d v = some (ofValue v)) :
    ofValues? d vs = some (ofValues vs) := by
  induction vs with
  | nil => rfl
  | cons v vs ih =>
    rw [ofValues?_cons, h v List.mem_cons_self, ih fun w hw => h w (List.mem_cons_of_mem _ hw)]
    rfl

theorem ofMembers?_eq_some {ms : List (String × Value)} (names : ∀ m ∈ ms, Plain m.1)
    (h : ∀ m ∈ ms, ofValue? d m.2 = some (ofValue m.2)) : ofMembers? d ms = some (ofMembers ms) := by
  induction ms with
  | nil => rfl
  | cons m ms ih =>
    rw [ofMembers?_cons, if_pos (names m List.mem_cons_self), h m List.mem_cons_self,
      ih (fun n hn => names n (List.mem_cons_of_mem _ hn)) fun n hn => h n (List.mem_cons_of_mem _ hn)]
    rfl

/-- A value without separators that does not nest too deep is read as its tree. -/
theorem ofValue?_eq_some {V : Vocabulary} {v : Value} (h : v.Over V) (plain : ∀ s, V.text s → Plain s)
    (deep : v.depth ≤ d) : ofValue? d v = some (ofValue v) := by
  induction h generalizing d with
  | null | bool | number => rw [ofValue?, ofValue]
  | text h => rw [ofValue?, if_pos (plain _ h), ofValue]
  | array _ ih =>
    obtain ⟨d, rfl, within⟩ := Value.exists_depth_array deep
    rw [ofValue?, ofValues?_eq_some fun v hv => ih v hv (within v hv)]
    rfl
  | object _ texts _ ih =>
    obtain ⟨d, rfl, within⟩ := Value.exists_depth_object deep
    rw [ofValue?, ofMembers?_eq_some (fun m hm => plain _ (texts m hm)) fun m hm =>
      ih m hm (within m hm)]
    rfl

theorem exists_of_ofValues? {vs : List Value} {ts : List Tree} (h : ofValues? d vs = some ts) :
    ∀ v ∈ vs, ∃ t, ofValue? d v = some t := by
  induction vs generalizing ts with
  | nil => exact nofun
  | cons v vs ih =>
    obtain ⟨t, first, h⟩ := Option.bind_eq_some_iff.1 h
    obtain ⟨us, others, -⟩ := Option.map_eq_some_iff.1 h
    exact List.forall_mem_cons.2 ⟨⟨t, first⟩, ih others⟩

theorem exists_of_ofMembers? {ms : List (String × Value)} {ts : List (Joined × Tree)}
    (h : ofMembers? d ms = some ts) : ∀ m ∈ ms, Plain m.1 ∧ ∃ t, ofValue? d m.2 = some t := by
  induction ms generalizing ts with
  | nil => exact nofun
  | cons m ms ih =>
    rw [ofMembers?_cons] at h
    split at h
    · rename_i plain
      obtain ⟨t, first, h⟩ := Option.bind_eq_some_iff.1 h
      obtain ⟨us, others, -⟩ := Option.map_eq_some_iff.1 h
      exact List.forall_mem_cons.2 ⟨⟨plain, t, first⟩, ih others⟩
    · cases h

/-- A value that can be read has no separators in its texts. -/
theorem over_of_ofValue? {P : String → Prop} {v : Value} (h : v.Over (Json.naturals P)) {t : Tree}
    (read : ofValue? d v = some t) : v.Over (Json.naturals Plain) := by
  induction h generalizing d t with
  | null => exact .null
  | bool b => exact .bool b
  | number h => exact .number h
  | text =>
    rw [ofValue?] at read
    split at read
    · rename_i plain
      exact .text plain
    · cases read
  | array _ ih =>
    cases d with
    | zero => cases read
    | succ d =>
      obtain ⟨ts, items, -⟩ := Option.map_eq_some_iff.1 read
      exact .array fun v hv => (exists_of_ofValues? items v hv).elim fun _ => ih v hv
  | object _ _ _ ih =>
    cases d with
    | zero => cases read
    | succ d =>
      obtain ⟨ts, members, -⟩ := Option.map_eq_some_iff.1 read
      have each := exists_of_ofMembers? members
      exact .object trivial (fun m hm => (each m hm).1) fun m hm => (each m hm).2.elim fun _ => ih m hm

end Tree

/-! ## Items and members -/

/-- A written value is read as its tree or not at all, and nothing behind it is read. -/
def Reads (d : Nat) (v : Value) : Prop :=
  ∀ rest, Delimited rest → readTree? d (v.write ++ rest) = (Tree.ofValue? d v).map (·, rest)

theorem skipAll_delimiter {c : Char} (h : c ∈ [',', ']', '\x7d', ':']) (r : List Char) :
    skipAll (c :: r) = c :: r := by
  simp only [List.mem_cons, List.not_mem_nil, or_false] at h
  rcases h with rfl | rfl | rfl | rfl <;> exact skipAll_cons (by decide) (by decide) r

section

variable {α : Type} {close : Char} {more : List Char → Option (List α × List Char)} {a : α}

/-- A list from the item `a` on, which is the last one if the list closes behind it and is followed by
more behind a comma. -/
def continued (close : Char) (more : List Char → Option (List α × List Char)) (a : α) (cs : List Char) :
    Option (List α × List Char) :=
  if (skipAll cs).head? = some close then some ([a], (skipAll cs).tail)
  else if (skipAll cs).head? = some ',' then (more (skipAll cs).tail).map fun p => (a :: p.1, p.2)
  else none

theorem continued_of_close {cs r : List Char} (h : skipAll cs = close :: r) :
    continued close more a cs = some ([a], r) := by
  rw [continued, h, if_pos List.head?_cons, List.tail_cons]

theorem continued_of_comma {cs r : List Char} (h : skipAll cs = ',' :: r) (other : close ≠ ',') :
    continued close more a cs = (more r).map fun p => (a :: p.1, p.2) := by
  rw [continued, h, if_neg (by simpa using other.symm), if_pos List.head?_cons, List.tail_cons]

theorem continued_of_other {cs : List Char} (h : ∀ r, skipAll cs ≠ close :: r)
    (h' : ∀ r, skipAll cs ≠ ',' :: r) : continued close more a cs = none := by
  unfold continued
  cases next : skipAll cs with
  | nil => rfl
  | cons c r =>
    have notClose : c ≠ close := fun same => h r (same ▸ next)
    have notComma : c ≠ ',' := fun same => h' r (same ▸ next)
    rw [List.head?_cons, if_neg (by simpa using notClose), if_neg (by simpa using notComma)]

theorem mem_of_continued {cs r : List Char} {as : List α}
    (h : continued close more a cs = some (as, r)) : a ∈ as := by
  unfold continued at h
  split at h
  · cases h
    exact List.mem_cons_self
  · split at h
    · obtain ⟨p, -, same⟩ := Option.map_eq_some_iff.1 h
      cases same
      exact List.mem_cons_self
    · cases h

end

section

variable {read : List Char → Option (Tree × List Char)} {cs r : List Char}

theorem readItems?_of_begins (start : Begins cs) (fuel : Nat) :
    readItems? read (fuel + 1) cs =
      (read cs).bind fun p => continued ']' (readItems? read fuel) p.1 p.2 := by
  rw [readItems?, start.skipAll_eq]
  split
  · obtain ⟨c, r, written, -, -, bracket⟩ := start
    exact absurd (List.cons.inj written).1.symm bracket
  · rw [Option.bind_eq_bind]
    congr 1
    funext p
    dsimp only
    split
    · rename_i closes
      rw [continued_of_close closes]
    · rename_i goesOn
      rw [continued_of_comma goesOn (by decide), Option.map_eq_bind]
      rfl
    · rename_i notClose notComma
      rw [continued_of_other notClose notComma]

theorem readMembers?_of_name (name : String) (fuel : Nat) :
    readMembers? read (fuel + 1) (writeText name ++ ':' :: cs) =
      if Plain name then
        (read cs).bind fun p => continued '\x7d' (readMembers? read fuel) (.ok name, p.1) p.2
      else none := by
  have colon : skipAll (':' :: cs) = ':' :: cs := skipAll_delimiter (by decide) cs
  have skipped : skipAll (writeText name ++ ':' :: cs) = writeText name ++ ':' :: cs :=
    skipAll_cons (by decide) (by decide) _
  rw [readMembers?, skipped]
  split
  · rename_i h
    exact absurd (List.cons.inj h).1 (by decide)
  · rw [readKey?_write]
    split
    · simp only [Option.bind_eq_bind, Option.bind_some, colon]
      congr 1
      funext p
      split
      · rename_i closes
        rw [continued_of_close closes]
      · rename_i goesOn
        rw [continued_of_comma goesOn (by decide), Option.map_eq_bind]
        rfl
      · rename_i notClose notComma
        rw [continued_of_other notClose notComma]
    · rfl

/-- If items are read, the first one is. -/
theorem exists_first_item (start : Begins cs) {fuel : Nat} {ts : List Tree}
    (h : readItems? read fuel cs = some (ts, r)) : ∃ t r', read cs = some (t, r') ∧ t ∈ ts := by
  cases fuel with
  | zero => cases h
  | succ fuel =>
    rw [readItems?_of_begins start] at h
    obtain ⟨⟨t, r'⟩, first, h⟩ := Option.bind_eq_some_iff.1 h
    exact ⟨t, r', first, mem_of_continued h⟩

/-- If members are read, the first one is. -/
theorem exists_first_member {name : String} {fuel : Nat} {ts : List (Joined × Tree)}
    (h : readMembers? read fuel (writeText name ++ ':' :: cs) = some (ts, r)) :
    ∃ t r', read cs = some (t, r') ∧ (.ok name, t) ∈ ts := by
  cases fuel with
  | zero => cases h
  | succ fuel =>
    rw [readMembers?_of_name] at h
    split at h
    · obtain ⟨⟨t, r'⟩, first, h⟩ := Option.bind_eq_some_iff.1 h
      exact ⟨t, r', first, mem_of_continued h⟩
    · cases h

end

section

variable {d : Nat}

/-- An item in front of others. -/
theorem readItems?_of_comma {v : Value} (h : Reads d v) (start : Begins v.write) (fuel : Nat)
    (cs : List Char) :
    readItems? (readTree? d) (fuel + 1) (v.write ++ ',' :: cs) =
      (Tree.ofValue? d v).bind fun t =>
        (readItems? (readTree? d) fuel cs).map fun p => (t :: p.1, p.2) := by
  rw [readItems?_of_begins (start.append _), h _ (delimited_cons (by decide) _), Option.bind_map]
  exact congrArg _ (funext fun t => continued_of_comma (skipAll_delimiter (by decide) cs) (by decide))

/-- The last item. -/
theorem readItems?_of_bracket {v : Value} (h : Reads d v) (start : Begins v.write) (fuel : Nat) :
    readItems? (readTree? d) (fuel + 1) (v.write ++ ']' :: rest) =
      (Tree.ofValue? d v).map fun t => ([t], rest) := by
  rw [readItems?_of_begins (start.append _), h _ (delimited_cons (by decide) _), Option.bind_map,
    Option.map_eq_bind]
  exact congrArg _ (funext fun t => continued_of_close (skipAll_delimiter (by decide) rest))

theorem readItems?_write {v : Value} {vs : List Value} (h : ∀ w ∈ v :: vs, Reads d w)
    (starts : ∀ w ∈ v :: vs, Begins w.write) {fuel : Nat} (enough : vs.length < fuel) :
    readItems? (readTree? d) fuel (v.write ++ (writeItems vs ++ rest)) =
      (Tree.ofValues? d (v :: vs)).map (·, rest) := by
  induction vs generalizing v fuel with
  | nil =>
    obtain ⟨fuel, rfl⟩ := Nat.exists_eq_add_of_lt enough
    rw [writeItems, List.singleton_append, readItems?_of_bracket (h v List.mem_cons_self)
      (starts v List.mem_cons_self), Tree.ofValues?_cons, Tree.ofValues?]
    cases Tree.ofValue? d v <;> rfl
  | cons w ws ih =>
    obtain ⟨fuel, rfl⟩ := Nat.exists_eq_add_of_le' (Nat.one_le_of_lt enough)
    have others := ih (fun u hu => h u (List.mem_cons_of_mem _ hu))
      (fun u hu => starts u (List.mem_cons_of_mem _ hu)) (Nat.lt_of_succ_lt_succ enough)
    rw [writeItems, List.cons_append, List.cons_append, List.append_assoc, readItems?_of_comma
      (h v List.mem_cons_self) (starts v List.mem_cons_self), others, Tree.ofValues?_cons v]
    cases Tree.ofValue? d v with
    | none => rfl
    | some t => cases Tree.ofValues? d (w :: ws) <;> rfl

/-- If items are read, the one behind those that can be read is. -/
theorem exists_item {before : List Value} (h : ∀ v ∈ before, Reads d v)
    (starts : ∀ v ∈ before, Begins v.write) {cs : List Char} (start : Begins cs) {fuel : Nat}
    {ts : List Tree} {r : List Char} (read : readItems? (readTree? d) fuel
      (before.flatMap (fun v => v.write ++ [',']) ++ cs) = some (ts, r)) :
    ∃ t r', readTree? d cs = some (t, r') ∧ t ∈ ts := by
  -- the items in front are read, since otherwise nothing would have been
  induction before generalizing fuel ts r with
  | nil => exact exists_first_item start read
  | cons v vs ih =>
    cases fuel with
    | zero => cases read
    | succ fuel =>
      rw [List.flatMap_cons, List.append_assoc, List.append_assoc, List.singleton_append,
        readItems?_of_comma (h v List.mem_cons_self) (starts v List.mem_cons_self)] at read
      obtain ⟨u, -, read⟩ := Option.bind_eq_some_iff.1 read
      obtain ⟨⟨us, r⟩, others, same⟩ := Option.map_eq_some_iff.1 read
      obtain ⟨t, r', own, mem⟩ := ih (fun w hw => h w (List.mem_cons_of_mem _ hw))
        (fun w hw => starts w (List.mem_cons_of_mem _ hw)) others
      cases same
      exact ⟨t, r', own, List.mem_cons_of_mem _ mem⟩

/-- A member in front of others. -/
theorem readMembers?_of_comma {m : String × Value} (h : Reads d m.2) (fuel : Nat) (cs : List Char) :
    readMembers? (readTree? d) (fuel + 1) (writeMember m ++ ',' :: cs) =
      if Plain m.1 then
        (Tree.ofValue? d m.2).bind fun t =>
          (readMembers? (readTree? d) fuel cs).map fun p => ((.ok m.1, t) :: p.1, p.2)
      else none := by
  rw [writeMember, List.append_assoc, List.cons_append, readMembers?_of_name,
    h _ (delimited_cons (by decide) _), Option.bind_map]
  split
  · exact congrArg _ (funext fun t => continued_of_comma (skipAll_delimiter (by decide) cs) (by decide))
  · rfl

/-- The last member. -/
theorem readMembers?_of_brace {m : String × Value} (h : Reads d m.2) (fuel : Nat) :
    readMembers? (readTree? d) (fuel + 1) (writeMember m ++ '\x7d' :: rest) =
      if Plain m.1 then (Tree.ofValue? d m.2).map fun t => ([(.ok m.1, t)], rest) else none := by
  rw [writeMember, List.append_assoc, List.cons_append, readMembers?_of_name,
    h _ (delimited_cons (by decide) _), Option.bind_map, Option.map_eq_bind]
  split
  · exact congrArg _ (funext fun t => continued_of_close (skipAll_delimiter (by decide) rest))
  · rfl

theorem readMembers?_write {m : String × Value} {ms : List (String × Value)}
    (h : ∀ n ∈ m :: ms, Reads d n.2) {fuel : Nat} (enough : ms.length < fuel) :
    readMembers? (readTree? d) fuel (writeMember m ++ (writeMembers ms ++ rest)) =
      (Tree.ofMembers? d (m :: ms)).map (·, rest) := by
  induction ms generalizing m fuel with
  | nil =>
    obtain ⟨fuel, rfl⟩ := Nat.exists_eq_add_of_lt enough
    rw [writeMembers, List.singleton_append, readMembers?_of_brace (h m List.mem_cons_self),
      Tree.ofMembers?_cons, Tree.ofMembers?]
    split
    · cases Tree.ofValue? d m.2 <;> rfl
    · rfl
  | cons n ns ih =>
    obtain ⟨fuel, rfl⟩ := Nat.exists_eq_add_of_le' (Nat.one_le_of_lt enough)
    have others := ih (fun k hk => h k (List.mem_cons_of_mem _ hk)) (Nat.lt_of_succ_lt_succ enough)
    have written : writeMembers (n :: ns) ++ rest =
        ',' :: (writeMember n ++ (writeMembers ns ++ rest)) := by
      simp [writeMembers, writeMember]
    rw [written, readMembers?_of_comma (h m List.mem_cons_self), others, Tree.ofMembers?_cons m]
    split
    · cases Tree.ofValue? d m.2 with
      | none => rfl
      | some t => cases Tree.ofMembers? d (n :: ns) <;> rfl
    · rfl

/-- If members are read, the one behind those that can be read is. -/
theorem exists_member {before : List (String × Value)} (h : ∀ m ∈ before, Reads d m.2)
    {name : String} {cs : List Char} {fuel : Nat} {ts : List (Joined × Tree)} {r : List Char}
    (read : readMembers? (readTree? d) fuel
      (before.flatMap (fun m => writeMember m ++ [',']) ++ (writeText name ++ ':' :: cs)) =
        some (ts, r)) :
    ∃ t r', readTree? d cs = some (t, r') ∧ (.ok name, t) ∈ ts := by
  induction before generalizing fuel ts r with
  | nil => exact exists_first_member read
  | cons m ms ih =>
    cases fuel with
    | zero => cases read
    | succ fuel =>
      rw [List.flatMap_cons, List.append_assoc, List.append_assoc, List.singleton_append,
        readMembers?_of_comma (h m List.mem_cons_self)] at read
      split at read
      · obtain ⟨u, -, read⟩ := Option.bind_eq_some_iff.1 read
        obtain ⟨⟨us, r⟩, others, same⟩ := Option.map_eq_some_iff.1 read
        obtain ⟨t, r', own, mem⟩ := ih (fun w hw => h w (List.mem_cons_of_mem _ hw)) others
        cases same
        exact ⟨t, r', own, List.mem_cons_of_mem _ mem⟩
      · cases read

end

/-! ## Values -/

section

variable {d : Nat}

theorem readTree?_array (cs : List Char) :
    readTree? (d + 1) ('[' :: cs) =
      (readItems? (readTree? d) (cs.length + 1) cs).map fun p => (.array p.1, p.2) := by
  unfold readTree?
  rw [skipAll_cons (by decide) (by decide)]
  rfl

theorem readTree?_object (cs : List Char) :
    readTree? (d + 1) ('\x7b' :: cs) =
      (readMembers? (readTree? d) (cs.length + 1) cs).map fun p => (.object p.1, p.2) := by
  unfold readTree?
  rw [skipAll_cons (by decide) (by decide)]
  rfl

theorem readTree?_zero_array (items : List Value) :
    readTree? 0 ((Value.array items).write ++ rest) = none := by
  unfold readTree?
  cases items <;> rfl

theorem readTree?_zero_object (members : List (String × Value)) :
    readTree? 0 ((Value.object members).write ++ rest) = none := by
  unfold readTree?
  cases members <;> rfl

theorem readTree?_null : readTree? d (Value.null.write ++ rest) = some (.null, rest) := by
  unfold readTree?
  rfl

theorem readTree?_bool (b : Bool) :
    readTree? d ((Value.bool b).write ++ rest) = some (.bool b, rest) := by
  unfold readTree?
  cases b <;> rfl

theorem expect?_of_ne {c : Char} (h : c ∉ ['n', 't', 'f']) {w : String}
    (word : w ∈ ["null", "true", "false"]) (r : List Char) : expect? w.toList (c :: r) = none := by
  simp only [List.mem_cons, List.not_mem_nil, or_false, not_or] at h word
  have head {e : Char} (other : c ≠ e) (ws : List Char) : expect? (e :: ws) (c :: r) = none := by
    rw [expect?, if_neg (by simpa using other.symm)]
  rcases word with rfl | rfl | rfl
  · exact head h.1 _
  · exact head h.2.1 _
  · exact head h.2.2 _

theorem readTree?_text (s : String) :
    readTree? d (writeText s ++ rest) = if Plain s then some (.text (.ok s), rest) else none := by
  have read : readText? (writeText s ++ rest) = if Plain s then some (.ok s, rest) else none :=
    readText?_write s
  have word : '"' ∉ ['n', 't', 'f'] := by decide
  rw [writeText_append] at read ⊢
  unfold readTree?
  rw [skipAll_cons (by decide) (by decide)]
  simp only [expect?_of_ne word (w := "null") (by simp), expect?_of_ne word (w := "true") (by simp),
    expect?_of_ne word (w := "false") (by simp)]
  by_cases plain : Plain s
  · rw [if_pos plain] at read ⊢
    rw [read]
  · rw [if_neg plain] at read ⊢
    rw [read]
    cases d <;> rfl

theorem readTree?_natural (n : Nat) (ends : Delimited rest) :
    readTree? d (decimal n ++ rest) = some (.numeral (decimal n), rest) := by
  have span := spanNumeral?_decimal n ends
  obtain ⟨c, r, written, digit⟩ := exists_decimal_eq_cons n
  have word : c ∉ ['n', 't', 'f'] := by
    intro h
    simp only [List.mem_cons, List.not_mem_nil, or_false] at h
    rcases h with rfl | rfl | rfl <;> cases digit
  have slash : c ≠ '/' := by
    rintro rfl
    cases digit
  have text (r : List Char) : readText? (c :: r) = none := by
    unfold readText?
    split
    · rename_i same
      obtain ⟨rfl, -⟩ := List.cons.inj same
      cases digit
    · rename_i same
      obtain ⟨rfl, -⟩ := List.cons.inj same
      cases digit
    · rfl
  rw [written, List.cons_append] at span ⊢
  unfold readTree?
  rw [skipAll_cons (isBlank_of_isDigit digit) slash]
  simp only [expect?_of_ne word (w := "null") (by simp), expect?_of_ne word (w := "true") (by simp),
    expect?_of_ne word (w := "false") (by simp), text, span]

theorem length_lt_writeItems (vs : List Value) : vs.length < (writeItems vs).length := by
  induction vs with
  | nil => exact Nat.one_pos
  | cons v vs ih =>
    simp only [writeItems, List.length_append, List.length_cons]
    omega

theorem length_lt_writeMembers (ms : List (String × Value)) : ms.length < (writeMembers ms).length := by
  induction ms with
  | nil => exact Nat.one_pos
  | cons m ms ih =>
    simp only [writeMembers, List.length_append, List.length_cons]
    omega

theorem reads_array {items : List Value} (h : ∀ v ∈ items, Reads d v)
    (starts : ∀ v ∈ items, Begins v.write) : Reads (d + 1) (.array items) := by
  intro rest ends
  cases items with
  | nil =>
    rw [Value.write, List.cons_append, readTree?_array]
    rfl
  | cons v vs =>
    have enough := length_lt_writeItems vs
    rw [Value.write, List.cons_append, List.cons_append, readTree?_array, List.append_assoc,
      readItems?_write h starts (by simp only [List.length_append]; omega), Tree.ofValue?]
    cases Tree.ofValues? d (v :: vs) <;> rfl

theorem reads_object {members : List (String × Value)} (h : ∀ m ∈ members, Reads d m.2) :
    Reads (d + 1) (.object members) := by
  intro rest ends
  cases members with
  | nil =>
    rw [Value.write, List.cons_append, readTree?_object]
    rfl
  | cons m ms =>
    have enough := length_lt_writeMembers ms
    have written : (Value.object (m :: ms)).write ++ rest =
        '\x7b' :: (writeMember m ++ (writeMembers ms ++ rest)) := by
      simp [Value.write, writeMember]
    rw [written, readTree?_object, readMembers?_write h (by simp only [List.length_append]; omega),
      Tree.ofValue?]
    cases Tree.ofMembers? d (m :: ms) <;> rfl

/-- A value of natural numbers is read as its tree, or not at all. -/
theorem readTree?_write {P : String → Prop} {v : Value} (h : v.Over (Json.naturals P)) : Reads d v := by
  induction h generalizing d with
  | null => exact fun rest _ => readTree?_null
  | bool b => exact fun rest _ => readTree?_bool b
  | number h =>
    obtain ⟨n, -, rfl⟩ := h
    exact fun rest ends => readTree?_natural n ends
  | @text s =>
    intro rest _
    rw [Value.write, readTree?_text, Tree.ofValue?]
    split <;> rfl
  | array made ih =>
    cases d with
    | zero => exact fun rest _ => readTree?_zero_array _
    | succ d => exact reads_array (fun v hv => ih v hv) fun v hv => begins_write (made v hv)
  | object _ _ _ ih =>
    cases d with
    | zero => exact fun rest _ => readTree?_zero_object _
    | succ d => exact reads_object fun m hm => ih m hm

/-- If an array is read, an item behind those that can be read is among its items. -/
theorem exists_item_of_array {P : String → Prop} {before : List Value}
    (made : ∀ v ∈ before, v.Over (Json.naturals P)) {v : Value} (start : Begins v.write)
    {after : List Value} {t : Tree} {r : List Char}
    (h : readTree? d ((Value.array (before ++ v :: after)).write ++ rest) = some (t, r)) :
    ∃ d' items t' r', t = .array items ∧
      readTree? d' (v.write ++ (writeItems after ++ rest)) = some (t', r') ∧ t' ∈ items := by
  cases d with
  | zero =>
    rw [readTree?_zero_array] at h
    cases h
  | succ d =>
    rw [Json.write_array_append, List.cons_append, List.append_assoc, List.append_assoc,
      readTree?_array] at h
    obtain ⟨⟨items, r⟩, read, same⟩ := Option.map_eq_some_iff.1 h
    cases same
    obtain ⟨t', r', own, mem⟩ := exists_item (fun v hv => readTree?_write (made v hv))
      (fun v hv => begins_write (made v hv)) (start.append _) read
    exact ⟨d, items, t', r', rfl, own, mem⟩

/-- If an object is read, a member behind those that can be read is among its members. -/
theorem exists_member_of_object {P : String → Prop} {before : List (String × Value)}
    (made : ∀ m ∈ before, m.2.Over (Json.naturals P)) {name : String} {v : Value}
    {after : List (String × Value)} {t : Tree} {r : List Char}
    (h : readTree? d ((Value.object (before ++ (name, v) :: after)).write ++ rest) = some (t, r)) :
    ∃ d' members t' r', t = .object members ∧
      readTree? d' (v.write ++ (writeMembers after ++ rest)) = some (t', r') ∧
        (.ok name, t') ∈ members := by
  cases d with
  | zero =>
    rw [readTree?_zero_object] at h
    cases h
  | succ d =>
    rw [Json.write_object_append, List.cons_append, List.append_assoc, List.append_assoc,
      readTree?_object, writeMember, List.append_assoc, List.cons_append] at h
    obtain ⟨⟨members, r⟩, read, same⟩ := Option.map_eq_some_iff.1 h
    cases same
    obtain ⟨t', r', own, mem⟩ := exists_member (fun m hm => readTree?_write (made m hm)) read
    exact ⟨d, members, t', r', rfl, own, mem⟩

end

/-! ## Whole texts -/

/-- The written form of a value is as deep as it is long at most. -/
theorem depth_le_length {V : Vocabulary} {v : Value} (h : v.Over V) : v.depth ≤ v.write.length := by
  induction h with
  | null | bool | number | text => exact Nat.zero_le _
  | @array items _ ih =>
    have start : ∃ n, (Value.array items).write.length = n + 1 := by cases items <;> exact ⟨_, rfl⟩
    obtain ⟨n, length⟩ := start
    rw [length, Value.depth_array_le]
    intro v hv
    have inner := ih v hv
    obtain ⟨before, after, rfl⟩ := List.append_of_mem hv
    rw [Json.write_array_append] at length
    simp only [List.length_cons, List.length_append] at length
    omega
  | @object members _ _ _ ih =>
    have start : ∃ n, (Value.object members).write.length = n + 1 := by cases members <;> exact ⟨_, rfl⟩
    obtain ⟨n, length⟩ := start
    rw [length, Value.depth_object_le]
    intro m hm
    have inner := ih m hm
    obtain ⟨before, after, rfl⟩ := List.append_of_mem hm
    rw [Json.write_object_append, writeMember] at length
    simp only [List.length_cons, List.length_append] at length
    omega

/-- The written form of a value of natural numbers is read as its tree, unless it has a separator in a
text. -/
theorem read?_write {P : String → Prop} {v : Value} (h : v.Over (Json.naturals P)) :
    read? v.write = Tree.ofValue? (v.write.length + 1) v := by
  have whole := readTree?_write h (d := v.write.length + 1) [] delimited_nil
  rw [List.append_nil] at whole
  rw [read?, whole]
  cases Tree.ofValue? (v.write.length + 1) v <;> rfl

end TopicRelay.Json5
