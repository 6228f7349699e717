/-
What bring-ups have behind them. A bring-up that has come some way in a run has taken the steps before:
it has sent the first request of its endpoint; it has received the answer, which settled the kind; it has
asked for the topic; and it has learnt that the topic was created. Each of these steps was a move of the
run, in this order, so that the moment can be named at which it was taken and the history shows it.
-/
import TopicRelay.Proofs.Simulation.Chronicle

namespace TopicRelay.Simulation

open TopicRelay.Broker TopicRelay.Config TopicRelay.Content TopicRelay.Control
open TopicRelay.Polling TopicRelay.Publication

/-! ## Definitions -/

/-- A pass is over the service of its session, for the client of it. -/
def Pass.OwnedIn (w : World) (p : Pass) : Prop :=
  ∃ m, w.member? p.session = some m ∧ m.session.service = p.service ∧ m.client = p.client

namespace Scene

/-- In the course of some moves, after the earlier of them, a bring-up went on from where it was. -/
structure WentOn (start : Scene) (n : Nat) (t : Errand) (earlier past : List Move) : Prop where
  part : earlier ++ [.resume n] <+: past
  there : (start.run earlier).errands[n]? = some t

/-- A move adds some events to the history, the latest first, and nothing else. -/
def Shows (start : Scene) (earlier : List Move) (mv : Move) (events : List Happening) : Prop :=
  (start.run (earlier ++ [mv])).world.history =
    events.map (fun event => ((start.run earlier).world.now, event)) ++ (start.run earlier).world.history

/-- A bring-up has sent the first request of its endpoint, which is to be answered in some way. -/
def Requested (start : Scene) (n : Nat) (p : Pass) (e : EndpointConfig) (answer : Answer)
    (past : List Move) : Prop :=
  ∃ earlier, start.WentOn n ⟨p, e, .pending⟩ earlier past ∧
    start.Shows earlier (.resume n)
      [.requested (World.bringUpRequest p e), .logged (bringUpStarted p.service e)] ∧
    ((start.run earlier).world.endpoints.request e.name).2.1 = answer

/-- After that, the bring-up has received a response, which settled its endpoint: the kind, a value that
the kind reads from it, and the endpoint with the kind pinned. -/
def Answered (start : Scene) (n : Nat) (p : Pass) (e : EndpointConfig) (r : Resolved)
    (past : List Move) : Prop :=
  ∃ earlier response, start.WentOn n ⟨p, e, .asked (.ok response)⟩ earlier past ∧
    start.Shows earlier (.resume n) [.answered (World.bringUpRequest p e)] ∧
    resolve e response = .ok r.kind ∧ r.kind.parse response = .ok r.initial ∧
    r.pinned = e.pin r.kind.identifier ∧ start.Requested n p e (.ok response) earlier

/-- After that, the bring-up has asked its client for the topic, which comes to some outcome. -/
def AskedTopic (start : Scene) (n : Nat) (p : Pass) (e : EndpointConfig) (r : Resolved)
    (outcome : Except TopicCreationError TopicCreation) (past : List Move) : Prop :=
  ∃ earlier, start.WentOn n ⟨p, e, .resolved r⟩ earlier past ∧
    start.Shows earlier (.resume n) [p.asksTopic r] ∧
    ((start.run earlier).world.createTopic p.client p.session p.service r).2 = outcome ∧
    start.Answered n p e r earlier

/-- After that, the bring-up has learnt that its topic was created or was there already. -/
def Obtained (start : Scene) (n : Nat) (p : Pass) (e : EndpointConfig) (r : Resolved)
    (past : List Move) : Prop :=
  ∃ earlier creation, start.WentOn n ⟨p, e, .creating r (.ok creation)⟩ earlier past ∧
    start.AskedTopic n p e r (.ok creation) earlier

end Scene

/-- What a bring-up has behind it. -/
def Errand.Came (start : Scene) (n : Nat) (past : List Scene.Move) (t : Errand) : Prop :=
  match t.phase with
  | .pending | .ended _ => True
  | .asked answer => start.Requested n t.pass t.endpoint answer past
  | .resolved r => start.Answered n t.pass t.endpoint r past
  | .creating r outcome => start.AskedTopic n t.pass t.endpoint r outcome past
  | .created r | .admitted r => start.Obtained n t.pass t.endpoint r past

variable {w w' : World} {x start : Scene} {p : Pass} {e : EndpointConfig} {r : Resolved} {n : Nat}
  {past moves : List Scene.Move}

/-! ## Answers and additions -/

/-- What a first answer settles: the kind that the endpoint is resolved to, a value that this kind reads
from the response, and the endpoint with the kind pinned. -/
theorem resolveAnswer_eq_ok {answer : Answer} (h : resolveAnswer e answer = .ok r) :
    ∃ response, answer = .ok response ∧ resolve e response = .ok r.kind ∧
      r.kind.parse response = .ok r.initial ∧ r.pinned = e.pin r.kind.identifier := by
  unfold resolveAnswer at h
  split at h
  · cases h
  · next response =>
    split at h
    · cases h
    · next kind settled =>
      split at h
      · cases h
      · next initial parsed =>
        cases h
        exact ⟨response, rfl, settled, parsed, rfl⟩

/-- What becomes of a session to which an endpoint is added, and of the addition. -/
inductive Added {η ε : Type} (create : EndpointConfig → Except ε η) (e : EndpointConfig)
    (s : Polling.Session η) : Polling.Session η → Except ε Unit → Prop
  /-- A session that has been stopped takes no endpoint. -/
  | ignored (ended : s.stopped = true) : Added create e s s (.ok ())
  /-- An endpoint of the name stays as it is. -/
  | tracked {slot : Slot η} (there : s.slot? e.name = some slot) : Added create e s s (.ok ())
  | refused {err : ε} (made : create e = .error err) : Added create e s s (.error err)
  | taken {s' : Polling.Session η} {handler : η} (live : s.stopped = false)
      (new : s.slot? e.name = none) (made : create e = .ok handler)
      (service : s'.service = s.service) (slots : s'.slots = s.slots ++ [s.slotFor e handler]) :
      Added create e s s' (.ok ())

theorem added_add {η ε : Type} (create : EndpointConfig → Except ε η) (now : Nat) (e : EndpointConfig)
    (s : Polling.Session η) : Added create e s (s.add create now e).1 (s.add create now e).2.1 := by
  unfold Polling.Session.add
  split
  · next ended => exact .ignored ended
  · next live =>
    split
    · next slot there => exact .tracked there
    · next new =>
      split
      · next err made => exact .refused made
      · next handler made => exact .taken (Bool.eq_false_iff.2 live) new made rfl rfl

/-- Of the slots of a session to which an endpoint is added, the only new one tracks the endpoint with
the handler that was made for it. -/
theorem slots_add {η ε : Type} {create : EndpointConfig → Except ε η} {now : Nat}
    {e : EndpointConfig} {s : Polling.Session η} {slot : Slot η}
    (h : slot ∈ (s.add create now e).1.slots) :
    slot ∈ s.slots ∨ slot.config = e ∧ create e = .ok slot.handler := by
  have added := added_add create now e s
  generalize (s.add create now e).1 = s', (s.add create now e).2.1 = result at added h
  cases added with
  | ignored | tracked | refused => exact .inl h
  | taken _ _ made _ slots =>
    rw [slots] at h
    rcases List.mem_append.1 h with h | h
    · exact .inl h
    · obtain rfl := List.mem_singleton.1 h
      exact .inr ⟨rfl, made⟩

theorem service_add {η ε : Type} (create : EndpointConfig → Except ε η) (now : Nat)
    (e : EndpointConfig) (s : Polling.Session η) : (s.add create now e).1.service = s.service := by
  have added := added_add create now e s
  generalize (s.add create now e).1 = s', (s.add create now e).2.1 = result at added
  cases added with
  | ignored | tracked | refused => rfl
  | taken _ _ _ service => exact service

/-! ## Passes and their sessions -/

theorem Pass.OwnedIn.tended (h : p.OwnedIn w) (tended : Tended w w') : p.OwnedIn w' := by
  obtain ⟨m, there, own, client⟩ := h
  have now := tended p.session
  rw [there] at now
  obtain ⟨m', there', client', kept⟩ := now
  exact ⟨m', there', kept.service.trans own, client'.trans client⟩

theorem Pass.OwnedIn.addEndpoint (h : p.OwnedIn w) (key : SessionKey) (e : EndpointConfig) :
    p.OwnedIn (w.addEndpoint key e).1 := by
  obtain ⟨m, there, own, client⟩ := h
  refine ⟨_, by rw [World.member?_addEndpoint, there, Option.map_some], ?_⟩
  split
  · exact ⟨(service_add _ _ _ _).trans own, client⟩
  · exact ⟨own, client⟩

theorem member?_addMember_of_free {m : Member} (free : w.member? m.key = none)
    {key : SessionKey} {m' : Member} (there : (w.addMember m).member? key = some m') :
    w.member? key = some m' ∨ key = m.key ∧ m' = m := by
  unfold World.member? World.addMember at there
  rw [List.find?_append, Option.or_eq_some_iff] at there
  rcases there with there | ⟨-, there⟩
  · exact .inl there
  · have found := List.find?_some there
    obtain rfl := List.mem_singleton.1 (List.mem_of_find?_eq_some there)
    exact .inr ⟨by simpa using (Eq.symm (by simpa using found : m'.key = key)), rfl⟩

namespace Scene

theorem owned_take (h : p.OwnedIn x.world) (mv : Move) : p.OwnedIn (x.take mv).world := by
  rcases x.sessions_take mv with tended | ⟨new, -, -, hworld⟩ | ⟨key, e, hmembers, -⟩
  · exact h.tended tended
  · obtain ⟨m, there, own⟩ := h
    rw [hworld]
    refine ⟨m, ?_, own⟩
    unfold World.member? World.addMember
    rw [List.find?_append]
    exact Option.or_eq_some_iff.2 (.inl there)
  · exact (h.addEndpoint key e).tended (.of_members hmembers)

theorem waiting_take (h : ∀ p ∈ x.waiting, p.OwnedIn x.world) (mv : Move) :
    ∀ p ∈ (x.take mv).waiting, p.OwnedIn (x.take mv).world := by
  have waiting : ∀ p ∈ x.waiting, p.OwnedIn (x.take mv).world := fun p hp => owned_take (h p hp) mv
  cases mv with
  | activate key | initialise key e =>
    revert waiting
    simp only [take]
    split
    · next m there =>
      intro waiting
      refine List.forall_mem_append.2 ⟨waiting, ?_⟩
      simpa [Pass.ofService, Pass.ofEndpoint] using ⟨m, there, rfl, rfl⟩
    · exact id
  | begin n =>
    revert waiting
    simp only [take]
    split
    · intro waiting p hp
      exact waiting p (List.mem_of_mem_eraseIdx hp)
    · exact id
  | launch | resume =>
    revert waiting
    simp only [take]
    split <;> exact id
  | start | stop | track | cycle | register | script | outcomes | clock => exact waiting

/-! ## Bring-ups -/

/-- The bring-ups of a pass begin with nothing behind them. -/
theorem errand_of_begin {k : Nat} {t : Errand} (there : (x.begin k p).errands[n]? = some t) :
    x.errands[n]? = some t ∨ t.pass = p ∧ t.phase = .pending := by
  unfold begin at there
  generalize (if p.wholeService then x.world.startSession p.session else (x.world, true)) = started
    at there
  obtain ⟨w, live⟩ := started
  rw [List.getElem?_append] at there
  split at there
  · exact .inl there
  · have member := List.mem_of_getElem? there
    cases live with
    | true =>
      obtain ⟨part, -, rfl⟩ := List.mem_map.1 member
      exact .inr ⟨rfl, rfl⟩
    | false => cases member

/-- A bring-up after a move was there before, belongs to a pass that begins, or has just gone on. -/
theorem errand_of_take {mv : Move} {t : Errand} (there : (x.take mv).errands[n]? = some t) :
    x.errands[n]? = some t ∨ t.pass ∈ x.waiting ∧ t.phase = .pending ∨
      ∃ t₀, mv = .resume n ∧ x.errands[n]? = some t₀ ∧
        t = { t₀ with phase := (x.world.resume t₀.pass t₀.endpoint t₀.phase).2 } := by
  cases mv with
  | begin k =>
    simp only [take] at there
    split at there
    · next p hp =>
      rcases errand_of_begin there with old | ⟨rfl, pending⟩
      · exact .inl old
      · exact .inr (.inl ⟨List.mem_of_getElem? hp, pending⟩)
    · exact .inl there
  | resume k =>
    simp only [take] at there
    split at there
    · next t₀ ht₀ =>
      by_cases own : k = n
      · subst own
        rw [List.getElem?_set_self (List.getElem?_eq_some_iff.1 ht₀).1] at there
        exact .inr (.inr ⟨t₀, rfl, ht₀, (Option.some.inj there).symm⟩)
      · rw [List.getElem?_set_ne own] at there
        exact .inl there
    · exact .inl there
  | launch | activate | initialise =>
    simp only [take] at there
    split at there <;> exact .inl there
  | start | stop | track | cycle | register | script | outcomes | clock => exact .inl there

/-- Every pass and every bring-up of a run is for the service of its session. -/
theorem owned_run (waiting : start.waiting = []) (errands : start.errands = [])
    (moves : List Move) :
    (∀ p ∈ (start.run moves).waiting, p.OwnedIn (start.run moves).world) ∧
      ∀ (n : Nat) (t : Errand), (start.run moves).errands[n]? = some t →
        t.pass.OwnedIn (start.run moves).world := by
  induction moves using List.reverseRecOn with
  | nil => exact ⟨by simp [run, waiting], by simp [run, errands]⟩
  | append_singleton past mv ih =>
    rw [run_concat]
    refine ⟨waiting_take ih.1 mv, fun n t there => ?_⟩
    rcases errand_of_take there with old | ⟨pass, -⟩ | ⟨t₀, -, old, rfl⟩
    · exact owned_take (ih.2 n t old) mv
    · exact owned_take (ih.1 t.pass pass) mv
    · exact owned_take (ih.2 n t₀ old) mv

/-! ## What has come before -/

section Later

variable {t : Errand} {earlier : List Move} (part : past <+: moves)
include part

theorem WentOn.later (h : start.WentOn n t earlier past) : start.WentOn n t earlier moves :=
  ⟨h.part.trans part, h.there⟩

theorem Requested.later {answer : Answer} (h : start.Requested n p e answer past) :
    start.Requested n p e answer moves := by
  obtain ⟨earlier, went, rest⟩ := h
  exact ⟨earlier, went.later part, rest⟩

theorem Answered.later (h : start.Answered n p e r past) : start.Answered n p e r moves := by
  obtain ⟨earlier, response, went, rest⟩ := h
  exact ⟨earlier, response, went.later part, rest⟩

theorem AskedTopic.later {outcome : Except TopicCreationError TopicCreation}
    (h : start.AskedTopic n p e r outcome past) : start.AskedTopic n p e r outcome moves := by
  obtain ⟨earlier, went, rest⟩ := h
  exact ⟨earlier, went.later part, rest⟩

theorem Obtained.later (h : start.Obtained n p e r past) : start.Obtained n p e r moves := by
  obtain ⟨earlier, creation, went, rest⟩ := h
  exact ⟨earlier, creation, went.later part, rest⟩

theorem came_later (h : t.Came start n past) : t.Came start n moves := by
  obtain ⟨p, e, phase⟩ := t
  cases phase with
  | pending | ended => trivial
  | asked answer => exact Requested.later part h
  | resolved r => exact Answered.later part h
  | creating r outcome => exact AskedTopic.later part h
  | created r | admitted r => exact Obtained.later part h

end Later

/-- The request of a topic that has been obtained stands in the history. -/
theorem Obtained.mem_history (h : start.Obtained n p e r past) :
    ∃ now, (now, p.asksTopic r) ∈ (start.run past).world.history := by
  obtain ⟨later, creation, learnt, earlier, asked, shows, -, -⟩ := h
  have part := asked.part.trans ((List.prefix_append _ _).trans learnt.part)
  refine ⟨(start.run earlier).world.now, (history_suffix start part).subset ?_⟩
  rw [shows]
  exact List.mem_append_left _ (List.mem_singleton_self _)

/-- A topic that has been obtained is that of the endpoint with the kind pinned. -/
theorem Obtained.pinned (h : start.Obtained n p e r past) : r.pinned = e.pin r.kind.identifier := by
  obtain ⟨-, -, -, -, -, -, -, -, -, -, -, -, -, pinned, -⟩ := h
  exact pinned

/-- What a move of a bring-up makes of the scene. -/
theorem take_resume {t : Errand} (there : x.errands[n]? = some t) :
    (x.take (.resume n)).world = (x.world.resume t.pass t.endpoint t.phase).1 := by
  simp only [take, there]

/-- A bring-up that goes on has behind it what it had, and the step that it takes. -/
theorem came_resume {t : Errand} (there : (start.run past).errands[n]? = some t)
    (came : t.Came start n past) :
    { t with phase := ((start.run past).world.resume t.pass t.endpoint t.phase).2 : Errand }.Came start n
      (past ++ [.resume n]) := by
  have went : start.WentOn n t past (past ++ [.resume n]) := ⟨List.prefix_refl _, there⟩
  have world := take_resume there
  rw [← run_concat] at world
  obtain ⟨p, e, phase⟩ := t
  dsimp only at came world ⊢
  cases phase with
  | pending =>
    simp only [World.resume] at world ⊢
    split
    · trivial
    · next live =>
      rw [if_neg live] at world
      exact ⟨past, went, congrArg World.history world, rfl⟩
  | asked answer =>
    simp only [World.resume] at world ⊢
    split
    · trivial
    · next r settled =>
      rw [settled] at world
      obtain ⟨response, rfl, resolves, parsed, pinned⟩ := resolveAnswer_eq_ok settled
      exact ⟨past, response, went, congrArg World.history world, resolves, parsed, pinned, came⟩
  | resolved r =>
    simp only [World.resume] at world ⊢
    split
    · trivial
    · next live =>
      rw [if_neg live, createTopic_fst] at world
      exact ⟨past, went, congrArg World.history world, rfl, came⟩
  | creating r outcome =>
    cases outcome with
    | error err => trivial
    | ok creation =>
      have obtained : start.Obtained n p e r (past ++ [.resume n]) := ⟨past, creation, went, came⟩
      cases creation <;> exact obtained
  | created r =>
    simp only [World.resume]
    split
    · exact Obtained.later (List.prefix_append _ _) came
    · trivial
  | admitted r =>
    simp only [World.resume]
    split <;> trivial
  | ended result => trivial

/-- Whatever a bring-up of a run has come to, it has behind it what belongs to that. -/
theorem came_run (errands : start.errands = []) (moves : List Move) :
    ∀ (n : Nat) (t : Errand), (start.run moves).errands[n]? = some t → t.Came start n moves := by
  induction moves using List.reverseRecOn with
  | nil => simp [run, errands]
  | append_singleton past mv ih =>
    intro n t there
    rw [run_concat] at there
    rcases errand_of_take there with old | ⟨-, pending⟩ | ⟨t₀, rfl, old, rfl⟩
    · exact came_later (List.prefix_append _ _) (ih n t old)
    · unfold Errand.Came
      rw [pending]
      trivial
    · exact came_resume old (ih n t₀ old)

end Scene

end TopicRelay.Simulation
