/-
Settling the payload kind of an endpoint. The kind comes from the media type alone or from the name
that is configured, and both ways answer to the same test: what is inferred from a media type is the
most specific kind that handles it, so it passes as a configured kind. A kind can therefore be pinned by
its canonical name once it is settled, and it is settled as the same kind again.
-/
import TopicRelay.Content.Resolution
import TopicRelay.Polling.Handler
import Mathlib.Data.List.Induction

namespace TopicRelay.Content

open TopicRelay.Config TopicRelay.Polling TopicRelay.Publication TopicRelay.Text

/-! ## Names of kinds -/

namespace PayloadKind

/-- No two kinds share a name. -/
theorem eq_of_mem_identifiers {k k' : PayloadKind} {name : String} (h : name ∈ k.identifiers)
    (h' : name ∈ k'.identifiers) : k = k' := by
  by_contra ne
  have apart : ∀ n ∈ k.identifiers, n ∉ k'.identifiers := by
    cases k <;> cases k' <;> first | exact absurd rfl ne | decide
  exact apart name h h'

theorem ofIdentifier_eq_ok_iff {name : String} {k : PayloadKind} :
    ofIdentifier name = .ok k ↔ trim name ∈ k.identifiers := by
  unfold ofIdentifier
  dsimp only
  split
  · rename_i found hfound
    have named : trim name ∈ found.identifiers := by simpa using List.find?_some hfound
    exact ⟨by rintro ⟨⟩; exact named, fun h => by rw [eq_of_mem_identifiers named h]⟩
  · rename_i unnamed
    refine ⟨nofun, fun h => ?_⟩
    have := List.find?_eq_none.1 unnamed k (by cases k <;> simp)
    simp [h] at this

theorem ofIdentifier_eq_error_iff {name : String} {err : ContentTypeError} :
    ofIdentifier name = .error err ↔
      err = .unsupportedProduces (trim name) ∧ ∀ k : PayloadKind, trim name ∉ k.identifiers := by
  constructor
  · intro h
    refine ⟨?_, fun k named => by rw [ofIdentifier_eq_ok_iff.2 named] at h; cases h⟩
    unfold ofIdentifier at h
    dsimp only at h
    split at h
    · cases h
    · exact (Except.error.inj h).symm
  · rintro ⟨rfl, unnamed⟩
    unfold ofIdentifier
    dsimp only
    split
    · rename_i found hfound
      exact absurd (by simpa using List.find?_some hfound) (unnamed found)
    · rfl

/-- The canonical name of a kind is a name of that kind. -/
theorem ofIdentifier_identifier (k : PayloadKind) : ofIdentifier k.identifier = .ok k := by
  rw [ofIdentifier_eq_ok_iff]
  cases k <;> decide +kernel

theorem identifier_ne_auto (k : PayloadKind) : k.identifier ≠ autoProduces := by
  cases k <;> decide

/-! ## Inference -/

theorem binary_accepts (c : String) : binary.accepts c = true := by
  simp [accepts, mediaTypes]

/-- What a media type suggests is the most specific kind that handles it. -/
theorem find?_accepts (c : String) :
    [json, plainText, binary].find? (·.accepts c) = some (infer (some c)) := by
  unfold infer
  by_cases asJson : json.accepts c
  · simp [asJson]
  · by_cases asText : plainText.accepts c
    · simp [asJson, asText]
    · simp [asJson, asText, binary_accepts]

theorem accepts_infer (c : String) : (infer (some c)).accepts c = true :=
  List.find?_some (p := fun k : PayloadKind => k.accepts c) (find?_accepts c)

end PayloadKind

/-! ## Headers -/

namespace Response

/-- The response with headers set one after the other. -/
def setHeaders (r : Response) (hs : List (String × String)) : Response :=
  hs.foldl (fun r h => r.setHeader h.1 h.2) r

/-- The value that stands last under a name, up to the case of `A` to `Z`. -/
def lastOf (name : String) (hs : List (String × String)) : Option String :=
  ((hs.filter fun h => sameFold h.1.toList name.toList).getLast?).map (·.2)

theorem lower_beq_lower (a b : String) : (lower a == lower b) = sameFold a.toList b.toList := by
  rw [Bool.eq_iff_iff, beq_iff_eq, sameFold, beq_iff_eq, lower, lower, String.ofList_inj]

/-- Of headers set one after the other, the last one of a name counts. -/
theorem header_setHeaders (r : Response) (name : String) (hs : List (String × String)) :
    (r.setHeaders hs).header name = (lastOf name hs).or (r.header name) := by
  induction hs using List.reverseRecOn with
  | nil => simp [setHeaders, lastOf]
  | append_singleton hs h ih =>
    have step : (r.setHeaders (hs ++ [h])) = (r.setHeaders hs).setHeader h.1 h.2 := by
      simp [setHeaders]
    rw [step, header_setHeader, lower_beq_lower, ih]
    -- the comparison is symmetric
    have symm : sameFold name.toList h.1.toList = sameFold h.1.toList name.toList := by
      rw [sameFold, sameFold, Bool.beq_comm]
    by_cases same : sameFold h.1.toList name.toList
    · simp [symm, lastOf, List.filter_append, same]
    · simp [symm, lastOf, List.filter_append, same]

end Response

/-! ## Resolution -/

section

variable {e : EndpointConfig} {r : Response} {kind : PayloadKind}

theorem resolve_auto (h : e.produces = autoProduces) :
    resolve e r = .ok (PayloadKind.infer r.contentType) := by
  simp [resolve, EndpointConfig.infersKind, h]

theorem resolve_configured (h : e.produces ≠ autoProduces) :
    resolve e r = (PayloadKind.ofIdentifier e.produces).bind fun kind =>
      r.contentType.elim (.ok kind) fun c =>
        if kind.accepts c then .ok kind else .error (.mismatch c kind) := by
  rw [resolve, EndpointConfig.infersKind, if_neg (by simpa using h)]
  cases PayloadKind.ofIdentifier e.produces with
  | error err => rfl
  | ok kind => cases r.contentType <;> rfl

theorem resolve_eq_ok_iff (h : e.produces ≠ autoProduces) :
    resolve e r = .ok kind ↔
      trim e.produces ∈ kind.identifiers ∧ ∀ c, r.contentType = some c → kind.accepts c = true := by
  rw [resolve_configured h, ← PayloadKind.ofIdentifier_eq_ok_iff]
  cases PayloadKind.ofIdentifier e.produces with
  | error err => simp [Except.bind]
  | ok k =>
    cases r.contentType with
    | none => simp [Except.bind]
    | some c =>
      by_cases handled : k.accepts c = true
      · simpa [Except.bind, handled] using fun (same : k = kind) => same ▸ handled
      · simpa [Except.bind, handled] using fun (same : k = kind) => same ▸ Bool.eq_false_iff.2 handled

theorem resolve_eq_mismatch_iff (h : e.produces ≠ autoProduces) (c : String) :
    resolve e r = .error (.mismatch c kind) ↔
      trim e.produces ∈ kind.identifiers ∧ r.contentType = some c ∧ kind.accepts c = false := by
  rw [resolve_configured h, ← PayloadKind.ofIdentifier_eq_ok_iff]
  cases named : PayloadKind.ofIdentifier e.produces with
  | error err =>
    obtain ⟨rfl, -⟩ := PayloadKind.ofIdentifier_eq_error_iff.1 named
    simp [Except.bind]
  | ok k =>
    cases r.contentType with
    | none => simp [Except.bind]
    | some c' =>
      by_cases handled : k.accepts c' = true
      · simpa [Except.bind, handled] using fun (_ : k = kind) (same : c' = c) => by subst_vars; simp [handled]
      · simp only [Except.bind, Option.elim, handled]
        constructor
        · rintro ⟨⟩
          exact ⟨rfl, rfl, Bool.eq_false_iff.2 handled⟩
        · rintro ⟨⟨⟩, ⟨⟩, -⟩
          rfl

theorem resolve_eq_unsupported_iff (h : e.produces ≠ autoProduces) (name : String) :
    resolve e r = .error (.unsupportedProduces name) ↔
      name = trim e.produces ∧ ∀ k : PayloadKind, trim e.produces ∉ k.identifiers := by
  rw [resolve_configured h]
  cases named : PayloadKind.ofIdentifier e.produces with
  | error err =>
    obtain ⟨rfl, unnamed⟩ := PayloadKind.ofIdentifier_eq_error_iff.1 named
    simpa [Except.bind, eq_comm] using fun _ => unnamed
  | ok k =>
    have known := PayloadKind.ofIdentifier_eq_ok_iff.1 named
    have : ¬ ∀ k : PayloadKind, trim e.produces ∉ k.identifiers := fun none => none k known
    cases r.contentType with
    | none => simp [Except.bind, this]
    | some c => by_cases handled : k.accepts c <;> simp [Except.bind, this, handled]

/-- A kind that is settled handles the media type it was settled by. -/
theorem accepts_of_resolve (h : resolve e r = .ok kind) {c : String} (hc : r.contentType = some c) :
    kind.accepts c = true := by
  by_cases auto : e.produces = autoProduces
  · rw [resolve_auto auto, hc] at h
    cases h
    exact PayloadKind.accepts_infer c
  · exact ((resolve_eq_ok_iff auto).1 h).2 c hc

/-- What is settled can be pinned: the pinned endpoint is settled as the same kind. -/
theorem resolve_pin (h : resolve e r = .ok kind) : resolve (e.pin kind.identifier) r = .ok kind :=
  (resolve_eq_ok_iff kind.identifier_ne_auto).2
    ⟨PayloadKind.ofIdentifier_eq_ok_iff.1 kind.ofIdentifier_identifier, fun _ => accepts_of_resolve h⟩

/-- The handler of an endpoint whose kind is pinned fails for want of a target only. -/
theorem create_pin_ne (bind : PayloadKind → Except PublishingError Target) (s : ServiceConfig)
    (err : ContentTypeError) :
    Handler.create bind s (e.pin kind.identifier) ≠ .error (.contentType err) := by
  have named : PayloadKind.ofIdentifier (e.pin kind.identifier).produces = .ok kind :=
    kind.ofIdentifier_identifier
  simp only [Handler.create, named]
  cases bind kind <;> simp

end

/-- The kind of an endpoint is settled once and for all. Take any endpoint and any response, its headers
set one after the other, and let the media type be the last value under that header's name in any case.
A kind that is settled handles the media type; pinned by its canonical name it is settled as the same
kind by the same response, and it is the kind that the pinned name is read as, so no handler of the
pinned endpoint fails for its kind. `auto` always settles: as the first of JSON, plain text and binary
that handles the media type, and as binary without one. Any other setting is refused for the media type
exactly if it names, blanks at its ends aside, a kind that does not handle the one that is there, and
for itself exactly if it names no kind, whatever the headers say. -/
theorem settled_kinds_can_be_pinned (e : EndpointConfig) (status : Nat) (body : Octets)
    (headers : List (String × String)) :
    let r := Response.setHeaders { status, body } headers
    let given := Response.lastOf "content-type" headers
    (∀ kind, resolve e r = .ok kind →
      (∀ c, given = some c → kind.accepts c = true) ∧
      resolve (e.pin kind.identifier) r = .ok kind ∧
      PayloadKind.ofIdentifier (e.pin kind.identifier).produces = .ok kind ∧
      ∀ bind s err, Handler.create bind s (e.pin kind.identifier) ≠ .error (.contentType err)) ∧
    (e.produces = "auto" →
      ∃ kind, resolve e r = .ok kind ∧ (given = none → kind = .binary) ∧
        ∀ c, given = some c → [.json, .plainText, .binary].find? (·.accepts c) = some kind) ∧
    (e.produces ≠ "auto" →
      (∀ c kind, resolve e r = .error (.mismatch c kind) ↔
        trim e.produces ∈ kind.identifiers ∧ given = some c ∧ kind.accepts c = false) ∧
      ∀ name, resolve e r = .error (.unsupportedProduces name) ↔
        name = trim e.produces ∧ ∀ kind : PayloadKind, trim e.produces ∉ kind.identifiers) := by
  intro r given
  have seen : r.contentType = given := by
    rw [Response.contentType, Response.header_setHeaders]
    exact Option.or_none
  refine ⟨fun kind settled => ⟨fun c hc => ?_, resolve_pin settled, kind.ofIdentifier_identifier,
    create_pin_ne⟩, fun auto => ?_, fun configured => ⟨fun c kind => ?_, ?_⟩⟩
  · exact accepts_of_resolve settled (seen.trans hc)
  · refine ⟨PayloadKind.infer given, ?_, fun none => by rw [none]; rfl, fun c hc => ?_⟩
    · rw [resolve_auto auto, seen]
    · rw [hc, PayloadKind.find?_accepts]
  · rw [resolve_eq_mismatch_iff configured, seen]
  · exact resolve_eq_unsupported_iff configured

end TopicRelay.Content
