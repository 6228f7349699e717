/-
Where published values come from. A session publishes through the handlers of its slots, and a slot
gets its handler from a bring-up whose topic is there. The kind that the first answer settles is asked
for with the topic, travels on as the text pinned in the endpoint, and is read back from that text by
the handler, which binds the endpoint to a topic of the same kind. So wherever a publication stands in
the history, the request of its topic stands before it, and none is refused for its kind.
-/
import TopicRelay.Proofs.Content.Kinds
import TopicRelay.Proofs.Polling.Delivery
import TopicRelay.Proofs.Simulation.Past

namespace TopicRelay.Content.PayloadKind

theorem topicKind_of_read {k : PayloadKind} {r : Response} {v : TopicValue}
    (h : k.read r = .ok v) : v.topicKind = k.topicKind := by
  cases k with
  | json =>
    cases text : r.text with
    | error fault => simp [read, text, bind, Except.bind] at h
    | ok body =>
      cases parsed : Json.parse? body with
      | none => simp [read, text, parsed, bind, Except.bind] at h
      | some j =>
        simp only [read, text, parsed, bind, Except.bind] at h
        cases h
        rfl
  | plainText =>
    cases text : r.text with
    | error fault => simp [read, text, Except.map] at h
    | ok body =>
      simp only [read, text, Except.map] at h
      cases h
      rfl
  | binary =>
    cases h
    rfl

/-- A kind reads values of the topics that are made for it. -/
theorem topicKind_of_parse {k : PayloadKind} {r : Response} {v : TopicValue}
    (h : k.parse r = .ok v) : v.topicKind = k.topicKind := by
  unfold parse at h
  cases hread : k.read r with
  | error fault =>
    rw [hread] at h
    cases h
  | ok u =>
    rw [hread] at h
    cases h
    exact topicKind_of_read hread

end TopicRelay.Content.PayloadKind

namespace TopicRelay.Simulation

open TopicRelay.Broker TopicRelay.Config TopicRelay.Content TopicRelay.Control
open TopicRelay.Polling TopicRelay.Publication

/-! ## Definitions -/

/-- A bring-up of a session has obtained the topic of a handler from the client of the session, for the
kind of the handler. -/
def Warranted (start : Scene) (past : List Scene.Move) (key : SessionKey) (c : Client) (h : Handler) :
    Prop :=
  ∃ n p e r, start.Obtained n p e r past ∧ p.session = key ∧ p.client = c ∧ r.kind = h.kind ∧
    h.target = Target.of p.service r.pinned r.kind

/-- The handler of a slot reads the kind that its endpoint names, and goes to the topic of it. -/
def SlotFits (s : ServiceConfig) (slot : Slot Handler) : Prop :=
  PayloadKind.ofIdentifier slot.config.produces = .ok slot.handler.kind ∧
    slot.handler.target = Target.of s slot.config slot.handler.kind

/-- The handlers of all slots fit. -/
def World.Fitted (w : World) : Prop :=
  ∀ key m, w.member? key = some m → ∀ slot ∈ m.session.slots, SlotFits m.session.service slot

/-- The scene without sessions, in some surroundings. -/
def Scene.empty (w : World) : Scene :=
  { world := { w with members := [] } }

variable {w w' : World} {x start : Scene} {p : Pass} {past moves : List Scene.Move}

/-! ## Handlers -/

/-- A handler reads the kind that its endpoint names, and goes to the topic of the endpoint. -/
theorem fits_of_create {bind : PayloadKind → Except PublishingError Target} {s : ServiceConfig}
    {e : EndpointConfig} {h : Handler} (made : Handler.create bind s e = .ok h)
    (bound : ∀ kind target, bind kind = .ok target → target = Target.of s e kind) :
    PayloadKind.ofIdentifier e.produces = .ok h.kind ∧ h.target = Target.of s e h.kind := by
  unfold Handler.create at made
  split at made
  · cases made
  · next kind named =>
    split at made
    · cases made
    · next target hbind =>
      cases made
      exact ⟨named, bound _ _ hbind⟩

theorem target_of_bind {c : Client} {s : ServiceConfig} {e : EndpointConfig} {kind : PayloadKind}
    {target : Target} (h : w.bind c s e kind = .ok target) : target = Target.of s e kind := by
  unfold World.bind at h
  split at h
  · cases h
    rfl
  · cases h

/-- An endpoint whose kind is pinned gets a handler of this kind. -/
theorem kind_of_pinned {e pinned : EndpointConfig} {kind k : PayloadKind}
    (pins : pinned = e.pin kind.identifier) (named : PayloadKind.ofIdentifier pinned.produces = .ok k) :
    kind = k := by
  rw [pins, show (e.pin kind.identifier).produces = kind.identifier from rfl,
    PayloadKind.ofIdentifier_identifier] at named
  exact Except.ok.inj named

theorem parsed_of_value {h : Handler} {answer : Answer} {v : TopicValue}
    (read : h.value answer = .ok v) : ∃ r, answer = .ok r ∧ h.kind.parse r = .ok v := by
  cases answer with
  | error err => cases read
  | ok r => exact ⟨r, rfl, read⟩

/-- A value of the kind of its target is taken. -/
theorem check_of_kind {t : Target} {v : TopicValue} (h : v.topicKind = t.kind) : t.check v = .ok () :=
  if_pos h

theorem publish_of_kind {t : Target} {v : TopicValue} (h : v.topicKind = t.kind) (c : Client)
    (key : Option SessionKey) (w : World) : (w.publish c key t v).2 = .ok () := by
  unfold World.publish
  rw [check_of_kind h]
  cases c <;> rfl

/-- A handler that reads a value of the kind of its target publishes it. -/
theorem handle_of_kind {m : Member} {h : Handler} {answer : Answer} {v : TopicValue}
    (read : h.value answer = .ok v) (fits : v.topicKind = h.target.kind) (w : World) :
    w.handle m h answer = (w.record (m.publishes h.target v)).say (h.entry none) := by
  unfold World.handle
  rw [read]
  dsimp only
  rw [publish_of_check (check_of_kind fits)]

theorem handler_of_deliver {now epoch : Nat} {s : Polling.Session Handler} {step : CycleStep}
    {c : Cycle} {h : Handler} {answer : Answer}
    (delivered : .deliver c h answer ∈ (step.take now epoch s).2) :
    ∃ slot ∈ s.slots, slot.handler = h := by
  have moved := step_cycleStep now epoch s step
  have there : Deed.cycle (.deliver c h answer) ∈ (step.take now epoch s).2.map Deed.cycle :=
    List.mem_map_of_mem delivered
  generalize (step.take now epoch s).1 = s', (step.take now epoch s).2.map Deed.cycle = ds
    at moved there
  cases moved with
  | idle => cases there
  | ignored | tracked | started | added | stopped => simp at there
  | advanced _ advance =>
    cases advance with
    | delivered _ taken =>
      obtain ⟨slot, hs, -, hhandler⟩ := Polling.Session.slot_of_receiver? taken
      obtain ⟨-, rfl, -⟩ : c = _ ∧ h = _ ∧ answer = _ := by simpa using there
      exact ⟨slot, hs, hhandler⟩
    | prepared | skipped | sent | refused | received | discarded => simp at there
  | dropped _ _ abandons =>
    rw [abandons] at there
    split at there <;> simp at there

/-! ## Warrants -/

theorem Warranted.later {key : SessionKey} {c : Client} {h : Handler} (part : past <+: moves)
    (warranted : Warranted start past key c h) : Warranted start moves key c h := by
  obtain ⟨n, p, e, r, obtained, rest⟩ := warranted
  exact ⟨n, p, e, r, obtained.later part, rest⟩

/-- The handler that is made for the endpoint of a bring-up is warranted by it. -/
theorem warranted_of_create {n : Nat} {e : EndpointConfig} {r : Resolved} {m : Member} {h : Handler}
    (obtained : start.Obtained n p e r past) (service : m.session.service = p.service)
    (client : m.client = p.client) (made : Handler.create
      (w.bind m.client m.session.service r.pinned) m.session.service r.pinned = .ok h) :
    Warranted start past p.session m.client h := by
  obtain ⟨named, target⟩ := fits_of_create made fun _ _ => target_of_bind
  have kind := kind_of_pinned obtained.pinned named
  exact ⟨n, p, e, r, obtained, rfl, client.symm, kind, service ▸ kind ▸ target⟩

/-! ## Handlers fit their endpoints -/

namespace World

theorem Fitted.tended (h : w.Fitted) (tended : Tended w w') : w'.Fitted := by
  intro key m' there' slot' hs'
  have now := tended key
  cases there : w.member? key with
  | none =>
    rw [there] at now
    rw [now] at there'
    cases there'
  | some m =>
    rw [there] at now
    obtain ⟨m₁, there₁, -, kept⟩ := now
    rw [there'] at there₁
    cases there₁
    obtain ⟨slot, hs, hreg, hhandler⟩ := kept.slots slot' hs'
    have fits := h key m there slot hs
    have hconfig : slot.config = slot'.config := (Prod.mk.injEq .. ▸ hreg : _ ∧ _).2
    rw [kept.service]
    rwa [SlotFits, ← hconfig, ← hhandler]

theorem Fitted.addMember {m : Member} (h : w.Fitted) (free : w.member? m.key = none)
    (empty : m.session.slots = []) : (w.addMember m).Fitted := by
  intro key m' there slot hs
  rcases member?_addMember_of_free free there with there | ⟨-, rfl⟩
  · exact h key m' there slot hs
  · rw [empty] at hs
    cases hs

theorem Fitted.addEndpoint (h : w.Fitted) (key : SessionKey) (e : EndpointConfig) :
    (w.addEndpoint key e).1.Fitted := by
  intro other m' there slot hs
  rw [member?_addEndpoint, Option.map_eq_some_iff] at there
  obtain ⟨m, found, rfl⟩ := there
  split at hs
  · next same =>
    rw [if_pos same]
    dsimp only at hs ⊢
    rw [service_add]
    rcases slots_add hs with hs | ⟨rfl, made⟩
    · exact h _ m found slot hs
    · exact fits_of_create made fun _ _ => target_of_bind
  · next other =>
    rw [if_neg other]
    exact h _ m found slot hs

end World

namespace Scene

theorem fitted_take (h : x.world.Fitted) (mv : Move) : (x.take mv).world.Fitted := by
  rcases x.sessions_take mv with tended | ⟨m, free, empty, hworld⟩ | ⟨key, e, hmembers, -⟩
  · exact h.tended tended
  · rw [hworld]
    exact h.addMember free (by rw [empty])
  · exact (h.addEndpoint key e).tended (.of_members hmembers)

theorem fitted_run (h : x.world.Fitted) (moves : List Move) : (x.run moves).world.Fitted := by
  induction moves using List.reverseRecOn with
  | nil => exact h
  | append_singleton past mv ih =>
    rw [run_concat]
    exact fitted_take ih mv

theorem fitted_empty (w : World) : (empty w).world.Fitted := by
  intro key m there
  cases there

/-- What a handler of a session reads fits its target. -/
theorem kind_of_deliver (fitted : x.world.Fitted) {key : SessionKey} {m : Member} {now epoch : Nat}
    {step : CycleStep} {c : Cycle} {h : Handler} {answer : Answer} {v : TopicValue}
    (held : x.world.member? key = some m)
    (delivered : .deliver c h answer ∈ (step.take now epoch m.session).2)
    (read : h.value answer = .ok v) : v.topicKind = h.kind.topicKind ∧ v.topicKind = h.target.kind := by
  obtain ⟨slot, hs, rfl⟩ := handler_of_deliver delivered
  obtain ⟨r, -, parsed⟩ := parsed_of_value read
  have kind := PayloadKind.topicKind_of_parse parsed
  refine ⟨kind, kind.trans ?_⟩
  rw [(fitted key m held slot hs).2]
  rfl

/-! ## Handlers are warranted -/

/-- As long as no endpoint is added to a session by hand, its handlers are warranted. -/
theorem warranted_run (waiting : start.waiting = []) (errands : start.errands = [])
    (members : start.world.members = []) {key : SessionKey} (moves : List Move) :
    (∀ e, .track key e ∉ moves) → ∀ m, (start.run moves).world.member? key = some m →
      ∀ slot ∈ m.session.slots, Warranted start moves key m.client slot.handler := by
  induction moves using List.reverseRecOn with
  | nil =>
    intro _ m there
    rw [run, List.foldl_nil, World.member?, members] at there
    cases there
  | append_singleton past mv ih =>
    intro untracked m there slot hs
    have part : past <+: past ++ [mv] := List.prefix_append _ _
    have before := ih fun e he => untracked e (part.subset he)
    rw [run_concat] at there
    rcases (start.run past).sessions_take mv with tended | ⟨new, free, empty, hworld⟩ |
      ⟨other, e, hmembers, cause⟩
    · have now := tended key
      cases found : (start.run past).world.member? key with
      | none =>
        rw [found] at now
        rw [now] at there
        cases there
      | some m₀ =>
        rw [found] at now
        obtain ⟨m', there', client, kept⟩ := now
        rw [there] at there'
        cases there'
        obtain ⟨slot₀, hs₀, -, hhandler⟩ := kept.slots slot hs
        rw [client, ← hhandler]
        exact (before m₀ found slot₀ hs₀).later part
    · rw [hworld] at there
      rcases member?_addMember_of_free free there with there | ⟨-, rfl⟩
      · exact (before m there slot hs).later part
      · rw [empty] at hs
        cases hs
    · rw [World.member?, hmembers, ← World.member?, World.member?_addEndpoint,
        Option.map_eq_some_iff] at there
      obtain ⟨m₀, found, rfl⟩ := there
      split at hs
      · next own =>
        subst own
        rw [if_pos rfl]
        rcases slots_add hs with hs | ⟨-, made⟩
        · exact (before m₀ found slot hs).later part
        · -- the endpoint was not added by hand, so it comes from a bring-up
          rcases cause with rfl | ⟨n, t, r, rfl, ht, admitted, rfl, rfl⟩
          · exact absurd (List.mem_append_right _ (List.mem_singleton_self _)) (untracked e)
          · obtain ⟨m₁, there₁, service, client⟩ := (owned_run waiting errands past).2 n t ht
            rw [there₁] at found
            cases found
            have came := came_run errands past n t ht
            unfold Errand.Came at came
            rw [admitted] at came
            exact (warranted_of_create came service client made).later part
      · next other =>
        rw [if_neg other]
        exact (before m₀ found slot hs).later part

/-! ## Publications -/

/-- A publication is written by a cycle, which hands an answer to a handler that reads the value. -/
theorem Writes.of_publication {mv : Move} {event : Happening} (writes : x.Writes mv event)
    (publication : event.isPublication = true) :
    ∃ key epoch step m c h answer v, mv = .cycle key epoch step ∧ x.world.member? key = some m ∧
      .deliver c h answer ∈ (step.take x.world.now epoch m.session).2 ∧ h.value answer = .ok v ∧
      event = m.publishes h.target v := by
  cases writes with
  | plain _ plain =>
    cases event with
    | logged e =>
      simp only [Happening.isPlain, Happening.isPublication, bne_iff_ne, Bool.and_eq_true,
        beq_iff_eq] at plain publication
      exact absurd publication.1 plain
    | published => cases plain
    | _ => cases publication
  | request | poll => cases publication
  | @topic n t r =>
    unfold Pass.asksTopic at publication
    cases hclient : t.pass.client with
    | standIn =>
      rw [hclient] at publication
      cases publication
    | logOnly k =>
      rw [hclient] at publication
      have other : ("log_broker_topic_add" == "log_broker_update") = false := by decide
      simp [Happening.isPublication, LogOnly.topicEntry, LogOnly.entry, other] at publication
  | publication held delivered read => exact ⟨_, _, _, _, _, _, _, _, rfl, held, delivered, read, rfl⟩

/-- Every value has its topic. In every run of sessions, passes and bring-ups from a world without
sessions, whatever the answers, the outcomes and the sources are, and whether a client is the stand-in
broker or the log-only one:

* wherever a publication stands in the history, a cycle of a session wrote it: the handler read the value
  from the response that the cycle handed over, as the kind of the handler, and the value is of the
  topic's kind. If no endpoint had been added to the session by hand, a bring-up of the session had
  obtained the topic before: it asked the client for a topic of the same path and for the kind of the
  handler, seeded with a value that this kind reads from the first answer, which stands earlier in the
  history, and the creation had succeeded;
* whatever a handler reads from an answer that is handed over is published, and never refused;
* no client refuses a value of a kind at a target that was made for this kind. -/
theorem created_before_published (w : World) (moves : List Move) :
    let start := empty { w with history := [] }
    let x := start.run moves
    (∀ later now event earlier,
      x.world.history = later ++ (now, event) :: earlier → event.isPublication = true →
      ∃ past key epoch, ∃ step : CycleStep, ∃ m c h response v,
        past ++ [.cycle key epoch step] <+: moves ∧ (start.run past).world.history <:+ earlier ∧
        (start.run past).world.member? key = some m ∧
        .deliver c h (.ok response) ∈ (step.take (start.run past).world.now epoch m.session).2 ∧
        h.kind.parse response = .ok v ∧ v.topicKind = h.kind.topicKind ∧
        event = m.publishes h.target v ∧
        ((∀ e, .track key e ∉ past) →
          ∃ n p e r, start.Obtained n p e r past ∧ (∃ asked, (asked, p.asksTopic r) ∈ earlier) ∧
            p.session = key ∧ p.client = m.client ∧ r.kind = h.kind ∧
            h.target = Target.of p.service r.pinned r.kind)) ∧
    (∀ key epoch (step : CycleStep) m c h answer v, x.world.member? key = some m →
      .deliver c h answer ∈ (step.take x.world.now epoch m.session).2 → h.value answer = .ok v →
      ∀ w' : World, w'.handle m h answer = (w'.record (m.publishes h.target v)).say (h.entry none)) ∧
    ∀ (w' : World) (c : Client) (session : Option SessionKey) (s : ServiceConfig) (e : EndpointConfig)
      (kind : PayloadKind) (r : Response) (v : TopicValue), kind.parse r = .ok v →
      (w'.publish c session (Target.of s e kind) v).2 = .ok () := by
  intro start x
  have fitted (moves : List Move) : (start.run moves).world.Fitted := fitted_run (fitted_empty _) moves
  refine ⟨fun later now event earlier stands publication => ?_, ?_, ?_⟩
  · obtain ⟨past, mv, part, before, writes⟩ := written_by rfl stands
    obtain ⟨key, epoch, step, m, c, h, answer, v, rfl, held, delivered, read, rfl⟩ :=
      writes.of_publication publication
    obtain ⟨response, rfl, parsed⟩ := parsed_of_value read
    refine ⟨past, key, epoch, step, m, c, h, response, v, part, before, held, delivered, parsed,
      PayloadKind.topicKind_of_parse parsed, rfl, fun untracked => ?_⟩
    obtain ⟨slot, hs, rfl⟩ := handler_of_deliver delivered
    obtain ⟨n, p, e, r, obtained, rest⟩ :=
      warranted_run rfl rfl rfl past untracked m held slot hs
    obtain ⟨asked, shown⟩ := obtained.mem_history
    exact ⟨n, p, e, r, obtained, ⟨asked, before.subset shown⟩, rest⟩
  · intro key epoch step m c h answer v held delivered read
    exact handle_of_kind read (kind_of_deliver (fitted moves) held delivered read).2
  · intro w' c session s e kind r v parsed
    exact publish_of_kind (PayloadKind.topicKind_of_parse parsed) c session w'

end Scene

end TopicRelay.Simulation
