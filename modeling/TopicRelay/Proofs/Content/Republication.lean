/-
JSON from the endpoint to the subscriber and back. What is published for a JSON value is its compact
text, and an endpoint that serves that text under UTF-8 is read as the very value. A value that has
been read needs no more for that than numbers that are read back from their own texts: its objects are in
order and it is not too deep. Integers and minus zero are such numbers, but not every double is, since
one that is printed in full may be rounded when it is read; a whole number that is written with an
exponent is a double (`exponent_is_read_otherwise`).
-/
import TopicRelay.Proofs.Content.Charsets
import TopicRelay.Proofs.Json.Acceptance
import TopicRelay.Proofs.Json.Texts

namespace TopicRelay.Content

open TopicRelay.Json TopicRelay.Text

/-- Values of integers from `-2^63` up to `2^64 - 1`, with any texts, whose objects list each name once
and in ascending order. -/
def integers : Vocabulary where
  number n := ∃ i : Int, n = .integer i ∧ leastInteger ≤ i ∧ i ≤ greatestInteger
  names := Ascending

/-- Values without doubles other than minus zero. -/
def wholeNumbers : Vocabulary where
  number := Number.Whole

/-- Values whose numbers are read back from their own texts. -/
def repeatable : Vocabulary where
  number := Number.ReadsBack

theorem readsBack_of_integer {n : Number} (h : integers.number n) : n.ReadsBack := by
  obtain ⟨i, rfl, least, greatest⟩ := h
  exact (Number.Whole.integer least greatest).readsBack

theorem repeatable_of_wholeNumbers {v : Value} (h : v.Over wholeNumbers) : v.Over repeatable :=
  h.mono (fun _ whole => whole.readsBack) (fun _ => id) fun _ => id

theorem octets_json (v : Value) : (TopicValue.json v).octets = Utf8.encode v.render := by
  rw [Utf8.encode, Value.render, String.toList_ofList]
  rfl

/-- A response with the octets of a text is read as the value that the text is read as. -/
theorem PayloadKind.parse_json_encode {r : Response} {s : String} {v : Value}
    (parsed : parse? s = some v)
    (h : r.charset ∈ [none, some "utf-8", some "utf8", some "us-ascii"])
    (served : r.body = Utf8.encode s) : json.parse r = .ok (.json v) := by
  have text : r.text = .ok s := by
    rw [Response.text_of_utf8 h, Utf8.decode_eq_ok_iff.2 served.symm]
    rfl
  rw [parse, read, text]
  simp only [bind, Except.bind, parsed]
  rfl

/-- Whatever is read as JSON has been accepted as a value. -/
theorem PayloadKind.over_of_parse_json {r : Response} {w : TopicValue} (h : json.parse r = .ok w) :
    ∃ v, w = .json v ∧ v.Over accepted ∧ v.depth ≤ depthLimit := by
  cases text : r.text with
  | error fault =>
    rw [PayloadKind.parse_of_error (by decide) text] at h
    cases h
  | ok s =>
    rw [parse, read, text] at h
    cases parsed : parse? s with
    | none => simp [bind, Except.bind, parsed, Except.mapError] at h
    | some v =>
      simp only [bind, Except.bind, parsed] at h
      cases h
      exact ⟨v, rfl, over_of_parse? parsed⟩

/-- What subscribers read is what the endpoint served.
* A value of integers that nests at most 127 arrays and objects is read from a response with its octets
  and without a charset, or with one of the names of UTF-8.
* A body is read as JSON or not at all. If it is, whatever its charset, and each number of the value is
  read back from its own text, then the published octets are read as the same value again, and that is
  published as the same octets.
* So it is for a value without doubles besides minus zero, and a numeral is read as such a number,
  whatever delimiter follows it, if it is in range and has neither a fraction nor an exponent. -/
theorem served_again_is_read_again :
    (∀ v : Value, v.Over integers → v.depth ≤ 127 →
      ∀ r : Response, ∀ x ∈ [none, some "utf-8", some "utf8", some "us-ascii"], r.Declares x →
        r.body = (TopicValue.json v).octets → PayloadKind.json.parse r = .ok (.json v)) ∧
    (∀ r w, PayloadKind.json.parse r = .ok w → ∃ v, w = .json v ∧
      (v.Over repeatable →
        ∀ r' : Response, ∀ x ∈ [none, some "utf-8", some "utf8", some "us-ascii"], r'.Declares x →
          r'.body = w.octets →
            ∃ w', PayloadKind.json.parse r' = .ok w' ∧ w' = w ∧ w'.octets = r'.body)) ∧
    (∀ v : Value, v.Over wholeNumbers → v.Over repeatable) ∧
    ∀ (negative : Bool) (n : Nat) (rest : List Char), Delimited rest →
      (if negative then leastInteger ≤ -(n : Int) else (n : Int) ≤ greatestInteger) →
        ∃ m, readNumber? (signedDigits negative n ++ rest) = some (m, rest) ∧ wholeNumbers.number m := by
  refine ⟨fun v made deep r x utf8 declares served => ?_, fun r w accepted => ?_,
    fun v => repeatable_of_wholeNumbers, fun negative n rest ends fits => whole_of_signedDigits ends fits⟩
  · have parsed := parse?_render made (fun n => readsBack_of_integer) (fun _ h => h) deep
    exact PayloadKind.parse_json_encode parsed (Response.declares_iff.1 declares ▸ utf8)
      (served.trans (octets_json v))
  · obtain ⟨v, rfl, made, deep⟩ := PayloadKind.over_of_parse_json accepted
    refine ⟨v, rfl, fun back r' x utf8 declares served => ?_⟩
    have parsed := parse?_render (made.and back) (fun n h => h.2) (fun _ h => h.1) deep
    exact ⟨.json v,
      PayloadKind.parse_json_encode parsed (Response.declares_iff.1 declares ▸ utf8)
        (served.trans (octets_json v)), rfl, served.symm⟩

/-- `1e2` is read back from `100.0`. -/
example : (Number.float ⟨false, ⟨7036874417766400, -46⟩⟩).ReadsBack := by decide +kernel

/-- A whole number in range that is written with an exponent is read exactly, as a double, and published
with a point; what is published is read as another number. -/
theorem exponent_is_read_otherwise :
    ∃ w w', 7205759403792799 ≤ greatestInteger ∧
      w = .json (.number (.float ⟨false, ⟨7205759403792799, 0⟩⟩)) ∧
      PayloadKind.json.parse { status := 200, body := Utf8.encode "7205759403792799e0" } = .ok w ∧
      w.octets = Utf8.encode "7205759403792799.0" ∧
      PayloadKind.json.parse { status := 200, body := w.octets } = .ok w' ∧
      w'.octets ≠ w.octets ∧ w' ≠ w := by
  have served : readNumber? "7205759403792799e0".toList =
      some (.float ⟨false, ⟨7205759403792799, 0⟩⟩, []) := by decide +kernel
  have again : readNumber? "7205759403792799.0".toList =
      some (.float ⟨false, ⟨7205759403792798, 0⟩⟩, []) := by decide +kernel
  have published : (TopicValue.json (.number (.float ⟨false, ⟨7205759403792799, 0⟩⟩))).octets =
      Utf8.encode "7205759403792799.0" := by decide +kernel
  have octets : (TopicValue.json (.number (.float ⟨false, ⟨7205759403792798, 0⟩⟩))).octets ≠
      (TopicValue.json (.number (.float ⟨false, ⟨7205759403792799, 0⟩⟩))).octets := by decide +kernel
  refine ⟨_, _, by decide, rfl, ?_, published, ?_, octets, fun same => octets (congrArg _ same)⟩
  · exact PayloadKind.parse_json_encode (parse?_numeral served) (by decide) (by rw [String.ofList_toList])
  · exact PayloadKind.parse_json_encode (parse?_numeral again) (by decide)
      (by rw [String.ofList_toList]; exact published)

end TopicRelay.Content
