/-
Lines of PEM bundles. A bundle is written by ending each line with a line feed, a carriage return or
both, where the last line may stay without an end. What the sections of a bundle are depends on the
lines alone, not on how they end: a line is read in the same way with and without its end, and a line
feed after a carriage return is an empty line, which changes nothing.
-/
import TopicRelay.Trust.Pem

namespace TopicRelay.Trust.Pem

open TopicRelay.Text

/-! ## Written lines -/

/-- How a line may end. -/
inductive LineEnd where
  | lf
  | cr
  | crlf
  deriving Repr, DecidableEq

/-- The octets of a line end. -/
def LineEnd.octets : LineEnd → Octets
  | .lf => [10]
  | .cr => [13]
  | .crlf => [13, 10]

/-- A text without line ends. -/
def Plain (line : Octets) : Prop :=
  ∀ b ∈ line, isLineEnd b = false

/-- A text consists of lines, each with an end of its own. The last one may go without. -/
inductive Written : List Octets → Octets → Prop
  | nothing : Written [] []
  | last {line : Octets} (filled : line ≠ []) : Written [line] line
  | line {line : Octets} (e : LineEnd) {rest : List Octets} {text : Octets}
      (further : Written rest text) : Written (line :: rest) (line ++ e.octets ++ text)

/-- Writes lines, each with its end. -/
def write : List (Octets × LineEnd) → Octets
  | [] => []
  | (line, e) :: rest => line ++ e.octets ++ write rest

theorem written_write : ∀ ls : List (Octets × LineEnd), Written (ls.map (·.1)) (write ls)
  | [] => .nothing
  | (_, e) :: rest => .line e (written_write rest)

theorem lines_line {line : Octets} (plain : Plain line) {e : UInt8} (ends : isLineEnd e = true)
    (text : Octets) : lines (line ++ e :: text) = (line ++ [e]) :: lines text := by
  induction line with
  | nil => simp [lines, ends]
  | cons b line ih =>
    have head := plain b List.mem_cons_self
    have tail := ih fun c hc => plain c (List.mem_cons_of_mem _ hc)
    rw [List.cons_append, lines, head, tail]
    rfl

theorem lines_last {line : Octets} (plain : Plain line) (filled : line ≠ []) :
    lines line = [line] := by
  induction line with
  | nil => exact absurd rfl filled
  | cons b line ih =>
    have head := plain b List.mem_cons_self
    rw [lines, head]
    cases line with
    | nil => rfl
    | cons c line =>
      rw [ih (fun d hd => plain d (List.mem_cons_of_mem _ hd)) (List.cons_ne_nil _ _)]
      rfl

/-! ## Line ends do not matter -/

section Ends

variable {line e : Octets}

theorem isTrailing_of_isLineEnd {b : UInt8} (h : isLineEnd b = true) : isTrailing b = true := by
  simp [isTrailing, h]

theorem trimEnd_append (ends : ∀ b ∈ e, isLineEnd b = true) : trimEnd (line ++ e) = trimEnd line := by
  unfold trimEnd
  rw [List.reverse_append, List.dropWhile_append_of_pos fun b hb =>
    isTrailing_of_isLineEnd (ends b (List.mem_reverse.1 hb))]

/-- A mark without line ends starts a line if it starts the line without its end. -/
theorem isPrefixOf_append {mark : Octets} (plain : Plain mark) (ends : ∀ b ∈ e, isLineEnd b = true) :
    mark.isPrefixOf (line ++ e) = mark.isPrefixOf line := by
  induction mark generalizing line with
  | nil => simp
  | cons m mark ih =>
    have tail : Plain mark := fun c hc => plain c (List.mem_cons_of_mem _ hc)
    cases line with
    | cons b line => simp [List.isPrefixOf, ih tail]
    | nil =>
      cases e with
      | nil => rfl
      | cons b e =>
        have other : m ≠ b := by
          rintro rfl
          have ended := ends m List.mem_cons_self
          rw [plain m List.mem_cons_self] at ended
          cases ended
        simp [List.isPrefixOf, other]

theorem takeWhile_append_of_stop {α : Type} {p : α → Bool} {l : List α} {x : α} (there : x ∈ l)
    (stops : p x = false) (m : List α) : (l ++ m).takeWhile p = l.takeWhile p := by
  induction l with
  | nil => cases there
  | cons y l ih =>
    rw [List.cons_append, List.takeWhile_cons, List.takeWhile_cons]
    split
    next goes =>
      rcases List.mem_cons.1 there with rfl | later
      · rw [stops] at goes
        cases goes
      · rw [ih later]
    next => rfl

theorem label?_append (ends : ∀ b ∈ e, isLineEnd b = true) : label? (line ++ e) = label? line := by
  have trailing : ∀ b ∈ e.reverse, isTrailer b = true := fun b hb => by
    simp [isTrailer, isTrailing_of_isLineEnd (ends b (List.mem_reverse.1 hb))]
  have none : e.reverse.count 45 = 0 := by
    rw [List.count_eq_zero, List.mem_reverse]
    intro dash
    exact absurd (ends 45 dash) (by decide)
  unfold label?
  dsimp only
  rw [List.reverse_append, List.takeWhile_append_of_pos trailing, List.count_append, none,
    Nat.zero_add]
  split
  next five =>
    -- the blanks stand in front of a dash, so they are the same without the line end
    have dash : 45 ∈ (line.reverse.takeWhile isTrailer).reverse := by
      rw [List.mem_reverse, ← List.count_pos_iff, five]
      decide
    rw [List.reverse_append, List.reverse_reverse, takeWhile_append_of_stop dash (by decide),
      List.length_append, ← List.drop_drop, List.drop_left]
  next => rfl

end Ends

/-! ## Reading a line -/

/-- What reading a line comes to. -/
inductive Outcome where
  /-- The line begins a section, but not with five dashes. -/
  | illegal
  | goesOn (r : Reading)
  /-- The line ends a section. -/
  | closed (s : Section)
  /-- The line ends a section that is no base64. -/
  | broken

/-- Reads a line. -/
def Reading.read (r : Reading) (line : Octets) : Outcome :=
  if beginMark.isPrefixOf line then
    match label? line with
    | some label => .goesOn { r with label := some label }
    | none => .illegal
  else
    match r.label with
    | none => .goesOn r
    | some label =>
      if (endMark label).isPrefixOf line then
        match Base64.decode? r.text with
        | some body => .closed ⟨label, body⟩
        | none => .broken
      else .goesOn { r with text := r.text ++ trimEnd line }

/-- Goes on after a line with the ones that follow it. -/
def Outcome.sections (line : Octets) (rest : List Octets) : Outcome → Except Fault (List Section)
  | .illegal => .error (.illegalStart line)
  | .goesOn r => sectionsFrom r rest
  | .closed s => (sectionsFrom {} rest).map (s :: ·)
  | .broken => .error .body

theorem sectionsFrom_cons (r : Reading) (line : Octets) (rest : List Octets) :
    sectionsFrom r (line :: rest) = (r.read line).sections line rest := by
  unfold Reading.read
  rw [sectionsFrom]
  split
  next => cases label? line <;> rfl
  next =>
    cases r.label with
    | none => rfl
    | some label =>
      dsimp only
      split
      next => cases Base64.decode? r.text <;> rfl
      next => rfl

/-- The label of the open section has no line end. -/
def Reading.Sound (r : Reading) : Prop :=
  ∀ label, r.label = some label → Plain label

variable {r r' : Reading} {line e label : Octets}

theorem plain_endMark (plain : Plain label) : Plain (endMark label) := by
  have written : ∀ b ∈ Utf8.encode "-----END " ++ Utf8.encode "-----", isLineEnd b = false := by
    decide +kernel
  intro b hb
  simp only [endMark, List.mem_append] at hb
  rcases hb with (hb | hb) | hb
  · exact written b (List.mem_append_left _ hb)
  · exact plain b hb
  · exact written b (List.mem_append_right _ hb)

/-- A label is made of the octets of its line. -/
theorem label?_subset (h : label? line = some label) : ∀ b ∈ label, b ∈ line := by
  unfold label? at h
  dsimp only at h
  split at h
  · cases h
    intro b hb
    rcases List.mem_append.1 (List.mem_of_mem_drop hb) with hb | hb
    · exact List.mem_reverse.1 (List.mem_of_mem_drop (List.mem_reverse.1 hb))
    · have trailing := List.mem_reverse.1 ((List.takeWhile_sublist _).subset hb)
      exact List.mem_reverse.1 ((List.takeWhile_sublist _).subset trailing)
  · cases h

theorem Reading.Sound.read (sound : r.Sound) (plain : Plain line)
    (h : r.read line = .goesOn r') : r'.Sound := by
  unfold Reading.read at h
  split at h
  next =>
    split at h
    next label hlabel =>
      cases h
      rintro l ⟨⟩
      exact fun b hb => plain b (label?_subset hlabel b hb)
    next => cases h
  next =>
    split at h
    next =>
      cases h
      exact sound
    next label hlabel =>
      split at h
      next => split at h <;> cases h
      next =>
        cases h
        rintro l hl
        exact sound l hl

theorem read_append (sound : r.Sound) (ends : ∀ b ∈ e, isLineEnd b = true) :
    r.read (line ++ e) = r.read line := by
  unfold Reading.read
  have begins : Plain beginMark := by
    unfold Plain
    decide +kernel
  rw [isPrefixOf_append begins ends, label?_append ends]
  rcases hlabel : r.label with _ | label
  · rfl
  · dsimp only
    rw [isPrefixOf_append (plain_endMark (sound label hlabel)) ends, trimEnd_append ends]

/-- A line without dashes is neither the begin nor the end of a section. -/
theorem no_mark (dashless : 45 ∉ line) (label : Octets) :
    beginMark.isPrefixOf line = false ∧ (endMark label).isPrefixOf line = false := by
  have starts (mark : Octets) (dash : 45 ∈ mark) : mark.isPrefixOf line = false := by
    rw [← Bool.not_eq_true, List.isPrefixOf_iff_prefix]
    exact fun start => dashless (start.subset dash)
  exact ⟨starts _ (by decide), starts _ (List.mem_append_right _ (by decide))⟩

/-- A line without dashes is collected if a section is open, without the blanks at its end. -/
theorem read_dashless (dashless : 45 ∉ line) (label text : Octets) :
    Reading.read { text } line = .goesOn { text } ∧
      Reading.read { label := some label, text } line =
        .goesOn { label := some label, text := text ++ trimEnd line } := by
  obtain ⟨notBegin, notEnd⟩ := no_mark dashless label
  simp [Reading.read, notBegin, notEnd]

/-- An empty line changes nothing. -/
theorem read_nil (r : Reading) : r.read [] = .goesOn r := by
  have dashless : 45 ∉ ([] : Octets) := List.not_mem_nil
  obtain ⟨_ | label, text⟩ := r
  · exact (read_dashless dashless [] text).1
  · rw [(read_dashless dashless label text).2]
    simp [trimEnd]

/-! ## Sections depend on the lines alone -/

/-- A fault without the octets of its line. -/
def Fault.kind : Fault → Fault
  | .illegalStart _ => .illegalStart []
  | fault => fault

theorem mapError_kind_congr {line₁ line₂ : Octets} {rest₁ rest₂ : List Octets} (o : Outcome)
    (further : ∀ r, o = .goesOn r ∨ r = {} →
      (sectionsFrom r rest₁).mapError Fault.kind = (sectionsFrom r rest₂).mapError Fault.kind) :
    (o.sections line₁ rest₁).mapError Fault.kind = (o.sections line₂ rest₂).mapError Fault.kind := by
  cases o with
  | illegal | broken => rfl
  | goesOn r => exact further r (Or.inl rfl)
  | closed s =>
    have rest := further {} (Or.inr rfl)
    simp only [Outcome.sections]
    generalize sectionsFrom {} rest₁ = one, sectionsFrom {} rest₂ = two at rest
    rcases one with f | ss <;> rcases two with g | ts
    · exact rest
    · cases rest
    · cases rest
    · obtain rfl : ss = ts := Except.ok.inj rest
      rfl

/-- The sections of a written bundle are those of its lines, however these end. -/
theorem sectionsFrom_written {ls : List Octets} {text : Octets} (written : Written ls text)
    (plain : ∀ l ∈ ls, Plain l) : ∀ {r : Reading}, r.Sound →
      (sectionsFrom r (lines text)).mapError Fault.kind =
        (sectionsFrom r ls).mapError Fault.kind := by
  induction written with
  | nothing => exact fun _ => rfl
  | @last line filled =>
    intro r _
    rw [lines_last (plain line List.mem_cons_self) filled]
  | @line line e rest text _ ih =>
    intro r sound
    have here := plain line List.mem_cons_self
    have later (r : Reading) (sound : r.Sound) :=
      ih (fun l hl => plain l (List.mem_cons_of_mem _ hl)) sound
    have ended (b : UInt8) (ends : isLineEnd b = true) (tail : List Octets)
        (same : ∀ r : Reading, r.Sound → (sectionsFrom r tail).mapError Fault.kind =
          (sectionsFrom r rest).mapError Fault.kind) :
        (sectionsFrom r ((line ++ [b]) :: tail)).mapError Fault.kind =
          (sectionsFrom r (line :: rest)).mapError Fault.kind := by
      rw [sectionsFrom_cons, sectionsFrom_cons, read_append sound (by simpa using ends)]
      refine mapError_kind_congr _ fun r' hr' => same r' ?_
      rcases hr' with goesOn | rfl
      · exact sound.read here goesOn
      · rintro label ⟨⟩
    cases e with
    | lf =>
      rw [LineEnd.octets, List.append_assoc, List.singleton_append, lines_line here (by decide)]
      exact ended 10 (by decide) _ later
    | cr =>
      rw [LineEnd.octets, List.append_assoc, List.singleton_append, lines_line here (by decide)]
      exact ended 13 (by decide) _ later
    | crlf =>
      -- the line feed is an empty line of its own
      have alone : lines (10 :: text) = [10] :: lines text := by
        simp [lines, isLineEnd]
      rw [LineEnd.octets, List.append_assoc, List.cons_append, List.singleton_append,
        lines_line here (by decide), alone]
      refine ended 13 (by decide) _ fun r' sound' => ?_
      have empty : r'.read ([] ++ [10]) = r'.read [] := read_append sound' (by decide +kernel)
      rw [sectionsFrom_cons, ← List.nil_append [10], empty, read_nil]
      exact later r' sound'

end TopicRelay.Trust.Pem
