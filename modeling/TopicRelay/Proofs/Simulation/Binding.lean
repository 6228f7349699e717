/-
What a successful bring-up leaves. A session takes the resolved endpoint of a bring-up only if it has
not been stopped and tracks no endpoint of the name; otherwise it stays as it is, and the bring-up
succeeds all the same. So success says that the topic was created for the kind of the first answer, and
it says that the session polls as that kind whenever the session had room for the endpoint.
-/
import TopicRelay.Proofs.Simulation.Provenance
import TopicRelay.Simulation.Fixtures

namespace TopicRelay.Simulation

open TopicRelay.Broker TopicRelay.Config TopicRelay.Content TopicRelay.Control
open TopicRelay.Polling TopicRelay.Publication

/-- How a bring-up has ended, if it has. -/
def Phase.outcome? : Phase → Option (Except InitialisationError PayloadKind)
  | .ended result => some result
  | _ => none

variable {w : World} {x : Scene} {p : Pass}

/-! ## Success -/

namespace World

/-- A bring-up succeeds by handing its endpoint to the session, which does not refuse it. -/
theorem resume_eq_ok {e : EndpointConfig} {phase : Phase} {kind : PayloadKind}
    (under_way : phase.outcome? = none)
    (succeeds : (w.resume p e phase).2.outcome? = some (.ok kind)) :
    ∃ r, phase = .admitted r ∧ r.kind = kind ∧ (w.addEndpoint p.session r.pinned).2 = .ok () := by
  cases phase with
  | pending | asked | resolved | created =>
    simp only [resume] at succeeds
    split at succeeds <;> cases succeeds
  | creating r outcome =>
    cases outcome with
    | error err => cases succeeds
    | ok effect => cases effect <;> cases succeeds
  | admitted r =>
    simp only [resume] at succeeds
    split at succeeds
    · next added =>
      cases succeeds
      exact ⟨r, rfl, rfl, added⟩
    · cases succeeds
  | ended result => cases under_way

/-- The handler that a session of the world makes for an endpoint. -/
def handlerFor (w : World) (m : Member) (e : EndpointConfig) : Except ServiceError Handler :=
  Handler.create (w.bind m.client m.session.service e) m.session.service e

theorem added_addEndpoint {key : SessionKey} {m : Member} (there : w.member? key = some m)
    (e : EndpointConfig) :
    ∃ m', (w.addEndpoint key e).1.member? key = some m' ∧
      Added (w.handlerFor m) e m.session m'.session (w.addEndpoint key e).2 := by
  refine ⟨_, by rw [member?_addEndpoint, there, Option.map_some, if_pos rfl], ?_⟩
  unfold addEndpoint
  rw [there]
  exact added_add (w.handlerFor m) w.now e m.session

end World

namespace Scene

/-- A session that does not refuse an endpoint tracks it if there is room for it, and stays as it is
otherwise. -/
theorem tracks_of_accepted {create : EndpointConfig → Except ServiceError Handler} {e : EndpointConfig}
    {s s' : Polling.Session Handler} (added : Added create e s s' (.ok ())) :
    (s.stopped = false → s.slot? e.name = none →
      ∃ slot, s'.slots = s.slots ++ [slot] ∧ s'.slot? e.name = some slot ∧ slot.config = e ∧
        create e = .ok slot.handler) ∧
    (∀ slot, s.slot? e.name = some slot → s' = s) ∧ (s.stopped = true → s' = s) := by
  cases added with
  | ignored ended => exact ⟨fun live => (by rw [ended] at live; cases live), fun _ _ => rfl, fun _ => rfl⟩
  | tracked there => exact ⟨fun _ new => (by rw [there] at new; cases new), fun _ _ => rfl, fun _ => rfl⟩
  | @taken _ handler live new made _ slots =>
    refine ⟨fun _ _ => ⟨s.slotFor e handler, slots, ?_, rfl, made⟩, fun slot there => ?_, fun ended => ?_⟩
    · rw [Polling.Session.slot?, slots, List.find?_append, ← Polling.Session.slot?, new, Option.none_or]
      simp [Polling.Session.slotFor]
    · rw [new] at there; cases there
    · rw [live] at ended; cases ended

/-- A bring-up that succeeds was about to hand over its endpoint, and the session has not refused it. -/
theorem added_of_success {n : Nat} {t : Errand} {kind : PayloadKind} {m : Member}
    (there : x.errands[n]? = some t) (under_way : t.phase.outcome? = none)
    (succeeds : ((x.take (.resume n)).errands[n]?).bind (·.phase.outcome?) = some (.ok kind))
    (held : x.world.member? t.pass.session = some m) :
    ∃ r m', t.phase = .admitted r ∧ r.kind = kind ∧
      (x.take (.resume n)).world.member? t.pass.session = some m' ∧
      Added (x.world.handlerFor m) r.pinned m.session m'.session (.ok ()) := by
  have length : n < x.errands.length := (List.getElem?_eq_some_iff.1 there).1
  simp only [take, there] at succeeds ⊢
  rw [List.getElem?_set_self length] at succeeds
  obtain ⟨r, hphase, hkind, accepted⟩ := World.resume_eq_ok under_way succeeds
  obtain ⟨m', held', added⟩ := World.added_addEndpoint held r.pinned
  rw [accepted] at added
  refine ⟨r, m', hphase, hkind, ?_, added⟩
  rw [hphase, World.member?, World.members_admitted]
  exact held'

/-- A successful bring-up creates the topic of its endpoint for the kind of the first answer, and has the
session poll as that kind if the session has room for the endpoint. After every run of sessions, passes,
bring-ups and endpoints added by hand, whatever the answers and the outcomes are, let a bring-up end in
success with a kind. Then:

* the bring-up itself obtained the topic before: it requested the endpoint, the answer that it received
  settles the kind, and it asked for the topic, for the endpoint with this kind pinned and seeded with
  what the kind reads from the answer, as the history shows; and the creation succeeded;
* if the session had not been stopped and tracked no endpoint of the name, it now tracks exactly the
  endpoint with the kind pinned under that name, besides what it tracked before, with a handler that
  reads this kind and goes to the topic of it;
* an endpoint of the name that was tracked already stays as it is, and its handler reads the kind that
  it names, so that it reads this kind if it is the same endpoint;
* a session that had been stopped stays as it is. -/
theorem successful_bring_up_binds (w : World) (moves : List Move) (n : Nat) (t : Errand) (kind : PayloadKind)
    (there : ((empty w).run moves).errands[n]? = some t)
    (under_way : t.phase.outcome? = none)
    (succeeds : ((((empty w).run moves).take (.resume n)).errands[n]?).bind
      (·.phase.outcome?) = some (.ok kind)) :
    let x := (empty w).run moves
    let next := x.take (.resume n)
    let pinned := t.endpoint.pin kind.identifier
    ∃ m m' r, x.world.member? t.pass.session = some m ∧
      next.world.member? t.pass.session = some m' ∧
      (r.kind = kind ∧ r.pinned = pinned ∧ (empty w).Obtained n t.pass t.endpoint r moves ∧
        ∃ asked, (asked, t.pass.asksTopic r) ∈ x.world.history) ∧
      (m.session.stopped = false → m.session.slot? t.endpoint.name = none →
        ∃ slot, m'.session.slots = m.session.slots ++ [slot] ∧
          m'.session.slot? t.endpoint.name = some slot ∧ slot.config = pinned ∧
          slot.handler.kind = kind ∧ slot.handler.target = Target.of t.pass.service pinned kind) ∧
      (∀ slot, m.session.slot? t.endpoint.name = some slot →
        m'.session = m.session ∧ PayloadKind.ofIdentifier slot.config.produces = .ok slot.handler.kind ∧
          (slot.config = pinned → slot.handler.kind = kind)) ∧
      (m.session.stopped = true → m'.session = m.session) := by
  intro x next pinned
  obtain ⟨m, held, own, -⟩ := (owned_run rfl rfl moves).2 n t there
  -- the endpoint handed over is the one whose topic the bring-up has obtained
  obtain ⟨r, m', hphase, rfl, held', added⟩ := added_of_success there under_way succeeds held
  have obtained : (empty w).Obtained n t.pass t.endpoint r moves := by
    have came := came_run rfl moves n t there
    unfold Errand.Came at came
    rwa [hphase] at came
  have hpinned : r.pinned = pinned := obtained.pinned
  rw [hpinned] at added
  obtain ⟨room, taken, ended⟩ := tracks_of_accepted added
  refine ⟨m, m', r, held, held', ⟨rfl, hpinned, obtained, obtained.mem_history⟩, fun live new => ?_,
    fun slot tracked => ?_, ended⟩
  · obtain ⟨slot, hslots, hslot, hconfig, made⟩ := room live new
    obtain ⟨named, htarget⟩ := fits_of_create made fun _ _ => target_of_bind
    have hkind := kind_of_pinned rfl named
    exact ⟨slot, hslots, hslot, hconfig, hkind.symm, by rw [htarget, own, hkind]⟩
  · have fitted : x.world.Fitted := fitted_run (fitted_empty w) moves
    have fits := (fitted _ m held slot (List.mem_of_find?_eq_some tracked)).1
    exact ⟨taken slot tracked, fits, fun same => (kind_of_pinned same fits).symm⟩

/-! ## With and without room -/

/-- The key of the session of a service with two endpoints of one name. -/
def ratesKey : SessionKey :=
  ⟨.manager, 0⟩

/-- Every request is answered with the number one. -/
def ratesWorld : World :=
  let one : Response :=
    { status := 200, headers := [("Content-Type", "application/json")], body := Text.Utf8.encode "1" }
  { endpoints := { scripts := [("quotes", { repeated := some (.ok one) })] } }

/-- Both endpoints are to be brought up, the one that produces JSON first, and then some moves follow. -/
def contest (later : List Move) : List Move :=
  let service := Fixtures.service "rates" 1000 [Fixtures.endpoint "quotes" .json]
  let registry := (Registry.empty.add { closesReplaced := false, activates := true } service).1
  let moves : List Move :=
    [.launch ratesKey service .standIn false none, .register .standIn registry,
      .initialise ratesKey (Fixtures.endpoint "quotes" .json),
      .initialise ratesKey (Fixtures.endpoint "quotes" .plainText), .begin 0, .begin 0]
  moves ++ later

/-- The first endpoint of the name is tracked as it was resolved. -/
theorem successful_bring_up_binds_first :
    let next := ((empty ratesWorld).run (contest (List.replicate 5 (.resume 0)))).take (.resume 0)
    ∃ m slot, next.world.member? ratesKey = some m ∧ m.session.slot? "quotes" = some slot ∧
      slot.config = (Fixtures.endpoint "quotes" .json).pin PayloadKind.json.identifier ∧
      slot.handler.kind = .json := by
  intro next
  -- the bring-up is about to hand over its endpoint, and the session has room for it
  have at_hand : (((empty ratesWorld).run (contest (List.replicate 5 (.resume 0)))).errands[0]?).map
      (fun t => (t.pass.session, t.endpoint, t.phase.outcome?)) =
        some (ratesKey, Fixtures.endpoint "quotes" .json, none) := by
    decide +kernel
  have room : (((empty ratesWorld).run (contest (List.replicate 5 (.resume 0)))).world.member?
      ratesKey).map (fun m => (m.session.stopped, m.session.slot? "quotes")) = some (false, none) := by
    decide +kernel
  obtain ⟨t, there, at_hand⟩ := Option.map_eq_some_iff.1 at_hand
  simp only [Prod.mk.injEq] at at_hand
  obtain ⟨hkey, hendpoint, under_way⟩ := at_hand
  obtain ⟨m, m', -, held, held', -, tracks, -, -⟩ := successful_bring_up_binds ratesWorld
    (contest (List.replicate 5 (.resume 0))) 0 t .json there under_way (by decide +kernel)
  rw [hkey] at held held'
  rw [held] at room
  simp only [Option.map_some, Option.some.injEq, Prod.mk.injEq] at room
  rw [hendpoint] at tracks
  obtain ⟨slot, -, hslot, hconfig, hkind, -⟩ := tracks room.1 room.2
  exact ⟨m', slot, held', hslot, hconfig, hkind⟩

/-- Without room a bring-up succeeds all the same. The second endpoint of the name is brought up as plain
text while the session goes on polling the first one as JSON; and a bring-up whose session is stopped
while its topic is being created succeeds while the session tracks nothing. -/
theorem success_without_binding :
    (let past := (empty ratesWorld).run
        (contest (List.replicate 6 (.resume 0) ++ List.replicate 5 (.resume 1)))
      let next := past.take (.resume 1)
      (past.errands[1]?).map (fun t => (t.endpoint, t.phase.outcome?)) =
          some (Fixtures.endpoint "quotes" .plainText, none) ∧
        (next.errands[1]?).bind (·.phase.outcome?) = some (.ok .plainText) ∧
        ((next.world.member? ratesKey).bind fun m => m.session.slot? "quotes").map
          (fun slot => (slot.config.produces, slot.handler.kind)) = some ("json", .json)) ∧
    (let past := (empty ratesWorld).run
        (contest (List.replicate 3 (.resume 0) ++ [.stop ratesKey, .resume 0, .resume 0]))
      let next := past.take (.resume 0)
      (past.errands[0]?).map (fun t => (t.endpoint, t.phase.outcome?)) =
          some (Fixtures.endpoint "quotes" .json, none) ∧
        (next.errands[0]?).bind (·.phase.outcome?) = some (.ok .json) ∧
        (next.world.member? ratesKey).map (fun m => m.session.endpoints) = some []) := by
  decide +kernel

end Scene

end TopicRelay.Simulation
