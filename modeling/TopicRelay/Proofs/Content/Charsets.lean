/-
Charsets of responses. What a media type declares is said without reading it: its parameters stand
between semicolons, and the first one whose name is `charset` counts. Under UTF-8 a body is a text
exactly if it is the encoding of one, and that text is its value; under Latin-1 every body is a text,
so a text that has a Latin-1 form is read the same from that form as from its UTF-8 form.
-/
import TopicRelay.Content.Payload
import TopicRelay.Proofs.Text.Utf8
import Mathlib.Data.List.Basic

namespace TopicRelay.Content

open TopicRelay.Text

/-! ## Parameters -/

theorem splitOnChar_eq (sep : Char) (cs : List Char) : splitOnChar sep cs = cs.splitOn sep := by
  induction cs with
  | nil => rfl
  | cons c cs ih =>
    rw [splitOnChar, ih, List.splitOn_cons_eq_if_modifyHead]
    cases h : cs.splitOn sep with
    | nil => exact absurd h (List.splitOn_ne_nil sep cs)
    | cons p ps => rfl

theorem not_mem_of_mem_splitOnChar {sep : Char} {cs p : List Char} (h : p ∈ splitOnChar sep cs) :
    sep ∉ p := by
  induction cs generalizing p with
  | nil =>
    obtain rfl := List.mem_singleton.1 h
    exact List.not_mem_nil
  | cons c cs ih =>
    rw [splitOnChar] at h
    cases pieces : splitOnChar sep cs with
    | nil => rw [splitOnChar_eq] at pieces; exact absurd pieces (List.splitOn_ne_nil sep cs)
    | cons q qs =>
      simp only [pieces] at h
      split at h
      · rcases List.mem_cons.1 h with rfl | h
        · exact List.not_mem_nil
        · exact ih (pieces ▸ h)
      · rename_i other
        rcases List.mem_cons.1 h with rfl | h
        · have := ih (pieces ▸ List.mem_cons_self : q ∈ splitOnChar sep cs)
          rw [List.mem_cons, not_or]
          exact ⟨fun same => other (beq_iff_eq.2 same.symm), this⟩
        · exact ih (pieces ▸ List.mem_cons_of_mem _ h)

/-- A parameter is cut at its first equals sign. -/
theorem splitParameter?_eq_some_iff {p name value : List Char} :
    splitParameter? p = some (name, value) ↔ p = name ++ '=' :: value ∧ '=' ∉ name := by
  induction p generalizing name with
  | nil => simp [splitParameter?]
  | cons c p ih =>
    rw [splitParameter?]
    by_cases same : c = '='
    · subst same
      cases name with
      | nil => simp [eq_comm]
      | cons d name => simpa using fun (h : '=' = d) _ (h' : ¬ '=' = d) => absurd h h'
    · rw [if_neg (by simpa using same)]
      cases name with
      | nil =>
        refine ⟨fun h => ?_, fun h => absurd (List.cons.inj h.1).1 same⟩
        obtain ⟨⟨n, v⟩, -, h⟩ := Option.map_eq_some_iff.1 h
        cases h
      | cons d name =>
        constructor
        · intro h
          obtain ⟨⟨n, v⟩, tail, h⟩ := Option.map_eq_some_iff.1 h
          cases h
          obtain ⟨rfl, unnamed⟩ := ih.1 tail
          exact ⟨rfl, by simpa [eq_comm] using And.intro same unnamed⟩
        · rintro ⟨h, unnamed⟩
          obtain ⟨rfl, rest⟩ := List.cons.inj h
          rw [ih.2 ⟨rest, fun h => unnamed (List.mem_cons_of_mem _ h)⟩]
          rfl

/-! ## The declared charset -/

/-- A parameter that gives a charset, with its value as it is written. -/
def GivesCharset (parameter value : List Char) : Prop :=
  ∃ name, parameter = name ++ '=' :: value ∧ '=' ∉ name ∧
    lowerChars (trimChars name) = "charset".toList

/-- The value of the first charset parameter of a media type, as it is written. -/
inductive FirstCharset (contentType : List Char) : Option (List Char) → Prop
  | absent {media : List Char} {parameters : List (List Char)}
      (written : contentType = [';'].intercalate (media :: parameters))
      (apart : ∀ p ∈ media :: parameters, ';' ∉ p) (silent : ∀ p ∈ parameters, ∀ v, ¬ GivesCharset p v) :
      FirstCharset contentType none
  | present {media parameter value : List Char} {before after : List (List Char)}
      (written : contentType = [';'].intercalate (media :: (before ++ parameter :: after)))
      (apart : ∀ p ∈ media :: (before ++ parameter :: after), ';' ∉ p)
      (silent : ∀ p ∈ before, ∀ v, ¬ GivesCharset p v) (gives : GivesCharset parameter value) :
      FirstCharset contentType (some value)

/-- The name of a charset: blanks at its ends aside, then quotes, in lower case. -/
def charsetName (written : List Char) : List Char :=
  lowerChars (stripBoth isQuote (trimChars written))

/-- What a response declares its charset to be. -/
inductive Response.Declares (r : Response) : Option String → Prop
  | untyped (untyped : r.contentType = none) : r.Declares none
  | typed {c : String} {value : Option (List Char)} (typed : r.contentType = some c)
      (first : FirstCharset c.toList value) :
      r.Declares (value.map fun v => String.ofList (charsetName v))

/-- The test that a cut parameter has to pass. -/
def isCharset (p : List Char × List Char) : Bool :=
  sameFold (trimChars p.1) "charset".toList

theorem any_isCharset_iff (p : List Char) :
    (splitParameter? p).any isCharset = true ↔ ∃ v, GivesCharset p v := by
  have folded : lowerChars "charset".toList = "charset".toList := by decide
  simp only [Option.any_eq_true, Prod.exists, splitParameter?_eq_some_iff, isCharset, sameFold, folded,
    beq_iff_eq, GivesCharset]
  constructor
  · rintro ⟨name, value, ⟨rfl, unnamed⟩, same⟩
    exact ⟨value, name, rfl, unnamed, same⟩
  · rintro ⟨value, name, rfl, unnamed, same⟩
    exact ⟨name, value, ⟨rfl, unnamed⟩, same⟩

theorem splitParameter?_of_gives {p v : List Char} (h : GivesCharset p v) :
    ∃ name, splitParameter? p = some (name, v) := by
  obtain ⟨name, rfl, unnamed, -⟩ := h
  exact ⟨name, splitParameter?_eq_some_iff.2 ⟨rfl, unnamed⟩⟩

/-- The parameters of a media type, searched for the first charset. -/
theorem charsetOf_eq (contentType : List Char) :
    charsetOf contentType =
      ((((splitOnChar ';' contentType).drop 1).find? fun p => (splitParameter? p).any isCharset).bind
        splitParameter?).map fun p => charsetName p.2 := by
  rw [← List.find?_filterMap]
  rfl

theorem pieces_of_written {contentType : List Char} {pieces : List (List Char)}
    (written : contentType = [';'].intercalate pieces) (apart : ∀ p ∈ pieces, ';' ∉ p)
    (some_piece : pieces ≠ []) : splitOnChar ';' contentType = pieces := by
  rw [splitOnChar_eq, written, List.splitOn_intercalate ';' apart some_piece]

/-- The reader finds what the media type declares. -/
theorem FirstCharset.charsetOf_eq {contentType : List Char} {value : Option (List Char)}
    (h : FirstCharset contentType value) : charsetOf contentType = value.map charsetName := by
  rw [Content.charsetOf_eq]
  cases h with
  | absent written apart silent =>
    rw [pieces_of_written written apart (List.cons_ne_nil _ _), List.drop_one, List.tail_cons,
      List.find?_eq_none.2 fun p hp => ?_]
    · rfl
    · rw [any_isCharset_iff]
      rintro ⟨v, gives⟩
      exact silent p hp v gives
  | @present media parameter v before after written apart silent gives =>
    obtain ⟨name, cut⟩ := splitParameter?_of_gives gives
    have found : (before ++ parameter :: after).find? (fun p => (splitParameter? p).any isCharset) =
        some parameter := by
      refine List.find?_eq_some_iff_append.2 ⟨(any_isCharset_iff parameter).2 ⟨v, gives⟩, before, after,
        rfl, fun p hp => ?_⟩
      rw [Bool.not_eq_true', Bool.eq_false_iff, Ne, any_isCharset_iff]
      rintro ⟨v, gives⟩
      exact silent p hp v gives
    rw [pieces_of_written written apart (List.cons_ne_nil _ _), List.drop_one, List.tail_cons, found,
      Option.bind_some, cut]
    rfl

/-- Every media type declares something. -/
theorem exists_firstCharset (contentType : List Char) : ∃ value, FirstCharset contentType value := by
  have written : contentType = [';'].intercalate (splitOnChar ';' contentType) := by
    rw [splitOnChar_eq, List.intercalate_splitOn]
  have apart : ∀ p ∈ splitOnChar ';' contentType, ';' ∉ p := fun p => not_mem_of_mem_splitOnChar
  cases pieces : splitOnChar ';' contentType with
  | nil => rw [splitOnChar_eq] at pieces; exact absurd pieces (List.splitOn_ne_nil _ _)
  | cons media parameters =>
    rw [pieces] at written apart
    cases found : parameters.find? (fun p => (splitParameter? p).any isCharset) with
    | none =>
      refine ⟨none, .absent written apart fun p hp v gives => ?_⟩
      exact List.find?_eq_none.1 found p hp ((any_isCharset_iff p).2 ⟨v, gives⟩)
    | some parameter =>
      obtain ⟨given, before, after, rfl, silent⟩ := List.find?_eq_some_iff_append.1 found
      obtain ⟨v, gives⟩ := (any_isCharset_iff parameter).1 given
      refine ⟨some v, .present written apart (fun p hp v gives => ?_) gives⟩
      have := silent p hp
      rw [(any_isCharset_iff p).2 ⟨v, gives⟩] at this
      cases this

/-- What a response declares is what is read as its charset. -/
theorem Response.declares_iff {r : Response} {declared : Option String} :
    r.Declares declared ↔ declared = r.charset := by
  constructor
  · rintro (untyped | ⟨typed, first⟩)
    · rw [charset, untyped]
      rfl
    · rw [charset, typed, Option.bind_some, first.charsetOf_eq, Option.map_map]
      rfl
  · rintro rfl
    cases typed : r.contentType with
    | none =>
      rw [charset, typed]
      exact .untyped typed
    | some c =>
      obtain ⟨value, first⟩ := exists_firstCharset c.toList
      rw [charset, typed, Option.bind_some, first.charsetOf_eq, Option.map_map]
      exact .typed typed first

/-! ## Texts of bodies -/

namespace Response

variable {r : Response}

theorem text_of_utf8 (h : r.charset ∈ [none, some "utf-8", some "utf8", some "us-ascii"]) :
    r.text = (Utf8.decode r.body).mapError .utf8 := by
  unfold text
  simp only [List.mem_cons, List.not_mem_nil, or_false] at h
  rcases h with h | h | h | h <;> rw [h] <;> rfl

theorem text_of_latin1 (h : r.charset ∈ [some "iso-8859-1", some "latin1", some "latin-1"]) :
    r.text = .ok (Latin1.decode r.body) := by
  unfold text
  simp only [List.mem_cons, List.not_mem_nil, or_false] at h
  rcases h with h | h | h <;> rw [h] <;> rfl

theorem text_of_other {name : String} (h : r.charset = some name) (not_utf8 : name ∉ utf8Names)
    (not_latin1 : name ∉ latin1Names) : r.text = .error (.charset name) := by
  unfold text
  rw [h]
  simp only [List.contains_iff_mem, not_utf8, not_latin1, if_false]

end Response

namespace PayloadKind

variable {r r' : Response}

theorem parse_plainText (r : Response) :
    plainText.parse r = (r.text.mapError fun fault => .parse fault.message).map .text := by
  unfold parse read
  cases r.text <;> rfl

/-- A kind that reads texts reads a body by its text alone. -/
theorem parse_congr {k : PayloadKind} (textual : k ≠ .binary) (h : r.text = r'.text) :
    k.parse r = k.parse r' := by
  cases k with
  | json => simp only [parse, read, h]
  | plainText => simp only [parse, read, h]
  | binary => exact absurd rfl textual

theorem parse_of_error {k : PayloadKind} (textual : k ≠ .binary) {fault : BodyFault}
    (h : r.text = .error fault) : k.parse r = .error (.parse fault.message) := by
  cases k with
  | json => simp only [parse, read, h]; rfl
  | plainText => simp only [parse, read, h]; rfl
  | binary => exact absurd rfl textual

/-- Under UTF-8 the value of a body is the text that it encodes. -/
theorem parse_plainText_eq_ok_iff
    (h : r.charset ∈ [none, some "utf-8", some "utf8", some "us-ascii"]) {v : TopicValue} :
    plainText.parse r = .ok v ↔ ∃ s, Utf8.encode s = r.body ∧ v = .text s := by
  rw [parse_plainText, Response.text_of_utf8 h]
  cases read : Utf8.decode r.body with
  | error fault =>
    refine ⟨nofun, fun ⟨s, encoded, _⟩ => ?_⟩
    rw [Utf8.decode_eq_ok_iff.2 encoded] at read
    cases read
  | ok s =>
    constructor
    · rintro ⟨⟩
      exact ⟨s, Utf8.decode_eq_ok_iff.1 read, rfl⟩
    · rintro ⟨s', encoded, rfl⟩
      rw [Utf8.decode_eq_ok_iff.2 encoded] at read
      cases read
      rfl

end PayloadKind

/-- Decoding a body inverts encoding it. Every response declares one charset: that of the first charset
parameter of its media type, blanks and then quotes at its ends aside, in lower case, or none.
* Without one, and under the names of UTF-8, a body that encodes a text has that text for its value;
  only such bodies have a value, and the value is published as the body.
* Under the names of Latin-1 every body is the text whose code points are its octets. So a text of code
  points below 256 is read from its Latin-1 form, as JSON or as plain text, as it is read from its UTF-8
  form by a response that declares UTF-8.
* Any other charset is refused where a text is to be read.

Binary bodies are published as they come, whatever is declared. -/
theorem text_decoding_inverts_encoding (r : Response) :
    ∃ declared, (∀ x, r.Declares x ↔ x = declared) ∧
      (declared ∈ [none, some "utf-8", some "utf8", some "us-ascii"] →
        (∀ s, r.body = Utf8.encode s → PayloadKind.plainText.parse r = .ok (.text s)) ∧
        ((∃ v, PayloadKind.plainText.parse r = .ok v) ↔ ∃ s, Utf8.encode s = r.body) ∧
        ∀ v, PayloadKind.plainText.parse r = .ok v → v.octets = r.body) ∧
      (declared ∈ [some "iso-8859-1", some "latin1", some "latin-1"] →
        (∃ s, PayloadKind.plainText.parse r = .ok (.text s) ∧
          s.toList.map Char.toNat = r.body.map UInt8.toNat) ∧
        ∀ s : String, (∀ c ∈ s.toList, c.toNat < 256) →
          ∃ bs, Latin1.encode? s = some bs ∧
            ∀ r' : Response, ∀ x ∈ [none, some "utf-8", some "utf8", some "us-ascii"], r'.Declares x →
              ∀ k ∈ [PayloadKind.json, .plainText],
                k.parse { r with body := bs } = k.parse { r' with body := Utf8.encode s }) ∧
      (∀ name, declared = some name →
        name ∉ ["utf-8", "utf8", "us-ascii", "iso-8859-1", "latin1", "latin-1"] →
        ∀ k ∈ [PayloadKind.json, .plainText],
          k.parse r = .error (.parse ("unsupported charset " ++ name))) ∧
      ∃ v, PayloadKind.binary.parse r = .ok v ∧ v.octets = r.body := by
  have textual {k : PayloadKind} (hk : k ∈ [PayloadKind.json, .plainText]) : k ≠ .binary := by
    rintro rfl
    revert hk
    decide
  refine ⟨r.charset, fun x => Response.declares_iff, fun utf8 => ?_, fun latin1 => ⟨?_, ?_⟩, ?_,
    ⟨.binary r.body, rfl, rfl⟩⟩
  · refine ⟨fun s encoded => (PayloadKind.parse_plainText_eq_ok_iff utf8).2 ⟨s, encoded.symm, rfl⟩,
      ⟨fun ⟨v, parsed⟩ => ?_, fun ⟨s, encoded⟩ => ?_⟩, fun v parsed => ?_⟩
    · obtain ⟨s, encoded, -⟩ := (PayloadKind.parse_plainText_eq_ok_iff utf8).1 parsed
      exact ⟨s, encoded⟩
    · exact ⟨.text s, (PayloadKind.parse_plainText_eq_ok_iff utf8).2 ⟨s, encoded, rfl⟩⟩
    · obtain ⟨s, encoded, rfl⟩ := (PayloadKind.parse_plainText_eq_ok_iff utf8).1 parsed
      exact encoded
  · refine ⟨Latin1.decode r.body, ?_, Latin1.map_toNat_decode r.body⟩
    rw [PayloadKind.parse_plainText, Response.text_of_latin1 latin1]
    rfl
  · intro s small
    obtain ⟨bs, encoded, decoded⟩ := Latin1.exists_encode? small
    refine ⟨bs, encoded, fun r' x utf8 declares k hk => PayloadKind.parse_congr (textual hk) ?_⟩
    -- both forms are read as the text itself
    have same : ({ r with body := bs } : Response).text = .ok s :=
      (Response.text_of_latin1 (r := { r with body := bs }) latin1).trans (congrArg _ decoded)
    have same' : ({ r' with body := Utf8.encode s } : Response).text = .ok s := by
      rw [Response.declares_iff.1 declares] at utf8
      rw [Response.text_of_utf8 (r := { r' with body := Utf8.encode s }) utf8, Utf8.decode_encode]
      rfl
    rw [same, same']
  · intro name declared unknown k hk
    refine PayloadKind.parse_of_error (textual hk) (Response.text_of_other declared ?_ ?_)
    · exact fun h => unknown (List.mem_append_left latin1Names h)
    · exact fun h => unknown (List.mem_append_right utf8Names h)

end TopicRelay.Content
