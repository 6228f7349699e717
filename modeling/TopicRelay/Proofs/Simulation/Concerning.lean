/-
What makes no difference to an endpoint. Two worlds are alike for an endpoint if they have all in
common that the endpoint depends on: the sessions, the manager, the sources, the agenda and the clock,
the script of the endpoint, the outcome of its topic, and what has happened that concerns it. Entries
and requests of other endpoints leave a world alike.
-/
import TopicRelay.Proofs.Simulation.Solo
import TopicRelay.Proofs.Simulation.Overlap

namespace TopicRelay.Simulation

open TopicRelay.Broker TopicRelay.Config TopicRelay.Content TopicRelay.Control
open TopicRelay.Polling TopicRelay.Publication

/-! ## Histories -/

/-- Whether something that happens does not concern an endpoint, unless it comes with more. -/
def Happening.passes (s : ServiceConfig) (e : EndpointConfig) : Happening → Bool
  | .requested r => !(r.service == s.name && r.endpoint == e.name)
  | .topicAsked q => !(q.service == s.name && q.endpoint.name == e.name)
  | .logged entry => !tellsOf s e entry
  | _ => true

section Histories

variable {s : ServiceConfig} {e other : EndpointConfig} {hist : History}

theorem concerning_of_passes {h : Happening} (passes : h.passes s e = true) (t : Nat)
    (hist : History) :
    History.concerning s e ((t, h) :: hist) = History.concerning s e hist := by
  cases h with
  | requested r =>
    simp only [Happening.passes, Bool.not_eq_true', Bool.and_eq_false_iff, beq_eq_false_iff_ne] at passes
    rw [History.concerning, if_neg fun ⟨hs, he⟩ => passes.elim (· hs) (· he)]
  | topicAsked q =>
    simp only [Happening.passes, Bool.not_eq_true', Bool.and_eq_false_iff, beq_eq_false_iff_ne] at passes
    rw [History.concerning, if_neg fun ⟨hs, he⟩ => passes.elim (· hs) (· he)]
  | logged entry =>
    have silent : tellsOf s e entry = false := by simpa [Happening.passes] using passes
    match hist with
    | [] => rfl
    | (u, h) :: rest => cases h <;> simp [History.concerning, silent]
  | _ => rfl

theorem concerning_requested (t : Nat) (purpose : Purpose) (key : SessionKey) (hist : History) :
    History.concerning s e
        ((t, .requested { session := key, purpose, service := s.name, endpoint := e.name }) :: hist) =
      (t, .requested { session := key, purpose, service := s.name, endpoint := e.name }) ::
        History.concerning s e hist := by
  rw [History.concerning, if_pos ⟨rfl, rfl⟩]

theorem concerning_topicAsked {q : TopicRequest} (service : q.service = s.name)
    (endpoint : q.endpoint.name = e.name) (t : Nat) (hist : History) :
    History.concerning s e ((t, .topicAsked q) :: hist) =
      (t, .topicAsked q) :: History.concerning s e hist := by
  rw [History.concerning, if_pos ⟨service, endpoint⟩]

theorem concerning_published {entry : Log.Entry} (tells : tellsOf s e entry = true) (t u : Nat)
    (key : Option SessionKey) (path : String) (v : TopicValue) (hist : History) :
    History.concerning s e ((t, .logged entry) :: (u, .published key path v) :: hist) =
      (u, .published key path v) :: History.concerning s e hist := by
  rw [History.concerning, if_pos tells]

theorem tellsOf_of_event {entry : Log.Entry} (h : entry.event ≠ "poll_publish_ok") :
    tellsOf s e entry = false := by
  simp [tellsOf, h]

/-- Endpoints of one service are told apart by their labels. -/
theorem endpointLabel_inj : s.endpointLabel e = s.endpointLabel other ↔ e.name = other.name := by
  simp [ServiceConfig.endpointLabel]

theorem tellsOf_entry {h : Handler} : tellsOf s e (h.entry none) = (h.label == s.endpointLabel e) := by
  by_cases label : h.label = s.endpointLabel e
  · simp [tellsOf, Handler.entry, label]
  · simp [tellsOf, Handler.entry, label, Ne.symm label]

end Histories

/-! ## Worlds -/

/-- What a script makes an endpoint do. -/
def Script.play (s : Script) : List Answer × Option Answer × Nat :=
  (s.queued, s.repeated, s.delay)

/-- Worlds that have in common what matters to an endpoint. -/
structure Alike (s : ServiceConfig) (e : EndpointConfig) (w w' : World) : Prop where
  now : w'.now = w.now
  members : w'.members = w.members
  manager : w'.manager = w.manager
  standIn : w'.standIn = w.standIn
  agenda : w'.agenda = w.agenda
  script : (w'.endpoints.script e.name).play = (w.endpoints.script e.name).play
  outcome : w'.broker.outcome e.name = w.broker.outcome e.name
  told : w'.history.concerning s e = w.history.concerning s e

section Worlds

variable {s : ServiceConfig} {e : EndpointConfig} {w w₁ w₂ : World}

theorem Alike.refl (s : ServiceConfig) (e : EndpointConfig) (w : World) : Alike s e w w :=
  ⟨rfl, rfl, rfl, rfl, rfl, rfl, rfl, rfl⟩

theorem Alike.trans (h : Alike s e w w₁) (h' : Alike s e w₁ w₂) : Alike s e w w₂ where
  now := h'.now.trans h.now
  members := h'.members.trans h.members
  manager := h'.manager.trans h.manager
  standIn := h'.standIn.trans h.standIn
  agenda := h'.agenda.trans h.agenda
  script := h'.script.trans h.script
  outcome := h'.outcome.trans h.outcome
  told := h'.told.trans h.told

theorem alike_record {h : Happening} (passes : h.passes s e = true) (w : World) :
    Alike s e w (w.record h) :=
  ⟨rfl, rfl, rfl, rfl, rfl, rfl, rfl, concerning_of_passes passes w.now w.history⟩

theorem alike_say {entry : Log.Entry} (other : entry.event ≠ "poll_publish_ok") (w : World) :
    Alike s e w (w.say entry) :=
  alike_record (by simp [Happening.passes, tellsOf_of_event other]) w

/-- A script changes in nothing but the requests under way. -/
theorem alike_release (name : String) (w : World) :
    Alike s e w { w with endpoints := w.endpoints.release name } := by
  have same : (w.endpoints.release name).script e.name =
      if e.name = name then
        { w.endpoints.script name with inFlight := (w.endpoints.script name).inFlight - 1 }
      else w.endpoints.script e.name :=
    script_update _ name e.name w.endpoints
  refine ⟨rfl, rfl, rfl, rfl, rfl, ?_, rfl, rfl⟩
  dsimp only
  rw [same]
  split
  · next heq => rw [heq]; rfl
  · rfl

/-- Another endpoint is asked. -/
theorem alike_request {name : String} (other : name ≠ e.name) (w : World) :
    Alike s e w { w with endpoints := (w.endpoints.request name).1 } := by
  have same : (w.endpoints.request name).1.script e.name = w.endpoints.script e.name := by
    refine (script_update _ name e.name w.endpoints).trans ?_
    rw [if_neg (Ne.symm other)]
  exact ⟨rfl, rfl, rfl, rfl, rfl, by rw [same], rfl, rfl⟩

section Parts

variable (h : Alike s e w w₁)
include h

theorem Alike.withMembers (members : List Member) :
    Alike s e { w with members } { w₁ with members } :=
  ⟨h.now, rfl, h.manager, h.standIn, h.agenda, h.script, h.outcome, h.told⟩

theorem Alike.withSources (standIn : Registry Hook) :
    Alike s e { w with standIn } { w₁ with standIn } :=
  ⟨h.now, h.members, h.manager, rfl, h.agenda, h.script, h.outcome, h.told⟩

theorem Alike.withAgenda (agenda : Time.Agenda Work) :
    Alike s e { w with agenda } { w₁ with agenda } :=
  ⟨h.now, h.members, h.manager, h.standIn, rfl, h.script, h.outcome, h.told⟩

end Parts

/-- The world once an endpoint of the service has been asked. -/
def World.asked (purpose : Purpose) (s : ServiceConfig) (x : EndpointConfig) (w : World) : World :=
  { w.record (.requested
      { session := soloKey, purpose, service := s.name, endpoint := x.name }) with
    endpoints := (w.endpoints.request x.name).1 }

theorem alike_asked (purpose : Purpose) {x : EndpointConfig} (other : x.name ≠ e.name) (w : World) :
    Alike s e w (w.asked purpose s x) :=
  (alike_record (h := .requested
    { session := soloKey, purpose, service := s.name, endpoint := x.name })
    (by simp [Happening.passes, other]) w).trans (alike_request other _)

/-- The world once a first request has been answered. -/
def World.answered (p : Pass) (x : EndpointConfig) (w : World) : World :=
  { w.record (.answered (bringUpRequest p x)) with endpoints := w.endpoints.release x.name }

theorem alike_answered (p : Pass) (x : EndpointConfig) (w : World) : Alike s e w (w.answered p x) :=
  (alike_record (h := .answered (World.bringUpRequest p x)) rfl w).trans (alike_release x.name _)

theorem concludeBringUp_of_error (w : World) (p : Pass) {x : EndpointConfig} {a : Answer}
    {err : InitialisationError} (settled : resolveAnswer x a = .error err) :
    w.concludeBringUp p x a = (w.answered p x).endBringUp p x (.error err) := by
  simp only [World.concludeBringUp, settled]
  rfl

theorem concludeBringUp_of_ok (w : World) (p : Pass) {x : EndpointConfig} {a : Answer} {r : Resolved}
    (settled : resolveAnswer x a = .ok r) :
    w.concludeBringUp p x a =
      ((w.answered p x).bindResolved p x r).1.endBringUp p x
        ((w.answered p x).bindResolved p x r).2 := by
  simp only [World.concludeBringUp, settled]
  rfl

end Worlds

end TopicRelay.Simulation
