/-
Bring-ups of a session that has been stopped. Wherever they were suspended, they send no request, ask
for no topic, have no handler made and add no endpoint, whatever else happens: other sessions of the
same service may run, and its source may be registered again. A bring-up looks at its session before
the first request and again before it asks for the topic, and the session looks at itself before it
tracks the endpoint, so that none of the three relies on the name of the service. What is left of such
a bring-up in the history is the end of its first request and its own log entries.
-/
import TopicRelay.Proofs.Simulation.Chronicle
import TopicRelay.Simulation.Fixtures

namespace TopicRelay.Simulation

open TopicRelay.Broker TopicRelay.Config TopicRelay.Content TopicRelay.Control
open TopicRelay.Polling TopicRelay.Publication

/-- Whether a request is sent or a topic is asked for by a bring-up of a session. -/
def Happening.isTraceOf (key : SessionKey) : Happening → Bool
  | .requested r => r.session == key && r.purpose == .bringUp
  | .topicAsked t => t.session == key
  | _ => false

/-- What becomes of a bring-up that was suspended in its first request when its session was stopped,
once it has gone on so often. -/
def Phase.stranded (service : String) (answer : Answer) (r : Resolved) : Nat → Phase
  | 0 => .asked answer
  | 1 => .resolved r
  | _ => .ended (.error (.serviceRemoved service))

variable {key : SessionKey} {w w' : World} {x : Scene} {m : Member}

/-- The session of a key is what is left of one that has been stopped. -/
def World.Holds (key : SessionKey) (m : Member) (w : World) : Prop :=
  ∃ m', w.member? key = some m' ∧ m'.session.stopped = true ∧ Kept m.session m'.session

namespace World

theorem Holds.isStopped (h : w.Holds key m) : w.isStopped key = true := by
  obtain ⟨m', there, ended, -⟩ := h
  rw [World.isStopped, there]
  exact ended

theorem Holds.tended (h : w.Holds key m) (tended : Tended w w') : w'.Holds key m := by
  obtain ⟨m₁, there, ended, kept⟩ := h
  have now := tended key
  rw [there] at now
  obtain ⟨m₂, there₂, -, kept₂⟩ := now
  exact ⟨m₂, there₂, kept₂.ended ended, kept.trans kept₂⟩

/-- A session that has been stopped takes no endpoint. -/
theorem Holds.addEndpoint (h : w.Holds key m) (other : SessionKey) (e : EndpointConfig) :
    (w.addEndpoint other e).1.Holds key m := by
  obtain ⟨m', there, ended, kept⟩ := h
  refine ⟨m', ?_, ended, kept⟩
  rw [member?_addEndpoint, there, Option.map_some]
  split
  · simp [Polling.Session.add, ended]
  · rfl

theorem Holds.addMember (h : w.Holds key m) (new : Member) : (w.addMember new).Holds key m := by
  obtain ⟨m', there, ended, kept⟩ := h
  refine ⟨m', ?_, ended, kept⟩
  unfold member? World.addMember
  rw [List.find?_append]
  exact Option.or_eq_some_iff.2 (.inl there)

/-- Adding an endpoint to a session that has been stopped leaves the sessions as they are. -/
theorem member?_addEndpoint_stopped (stopped : w.isStopped key = true) (e : EndpointConfig)
    (other : SessionKey) : (w.addEndpoint key e).1.member? other = w.member? other := by
  rw [member?_addEndpoint]
  cases there : w.member? other with
  | none => rfl
  | some m =>
    rw [Option.map_some]
    split
    · next own =>
      subst own
      rw [isStopped, there] at stopped
      simp [Polling.Session.add, stopped]
    · rfl

/-! ## Bring-ups that go on -/

section Stopped

variable {p : Pass} (stopped : w.isStopped p.session = true)
include stopped

/-- Wherever it goes on, a bring-up of a session that has been stopped writes what is plain. -/
theorem plain_resume (e : EndpointConfig) (phase : Phase) :
    Adds (·.isPlain = true) w (w.resume p e phase).1 := by
  have dead (live : w.isStopped p.session = false) : False := by
    rw [stopped] at live
    cases live
  exact adds_resume (fun _ plain => plain) p e w phase (fun _ live => (dead live).elim)
    fun _ _ live => (dead live).elim

theorem member?_resume_stopped (e : EndpointConfig) (phase : Phase) (other : SessionKey) :
    (w.resume p e phase).1.member? other = w.member? other := by
  cases phase with
  | admitted r =>
    rw [member?, members_admitted]
    exact member?_addEndpoint_stopped stopped r.pinned other
  | pending | asked | resolved | creating | created | ended =>
    rw [member?, members_resume _ _ _ (by simp)]
    rfl

theorem bindResolved_stopped (e : EndpointConfig) (r : Resolved) :
    w.bindResolved p e r = (w, .error (.serviceRemoved p.service.name)) := by
  simp [bindResolved, stopped]

theorem beginBringUp_stopped (e : EndpointConfig) :
    w.beginBringUp p e =
      (w.say (bringUpStarted p.service e)).endBringUp p e (.error (.serviceRemoved p.service.name)) := by
  unfold beginBringUp
  exact if_pos stopped

/-- A bring-up whose session has been stopped ends with its first answer, and does nothing besides: if
the answer is usable, it ends because the service was removed. -/
theorem concludeBringUp_stopped (e : EndpointConfig) (answer : Answer) :
    ∃ err, w.concludeBringUp p e answer =
        { w.record (.answered (bringUpRequest p e)) with
          endpoints := w.endpoints.release e.name }.endBringUp p e (.error err) ∧
      ∀ r, resolveAnswer e answer = .ok r → err = .serviceRemoved p.service.name := by
  unfold concludeBringUp
  cases settled : resolveAnswer e answer with
  | error err => exact ⟨err, rfl, fun r usable => by cases usable⟩
  | ok r =>
    refine ⟨_, ?_, fun _ _ => rfl⟩
    dsimp only
    rw [bindResolved_stopped]
    · rfl
    · exact stopped

/-- So it is for a turn that the world takes of a bring-up: the history gains the end of the first
request and log entries, and no session changes. -/
theorem turnBringUp_stopped (e : EndpointConfig) (progress : Progress) :
    Adds (·.isPlain = true) w (w.turnBringUp p e progress).1 ∧
      (w.turnBringUp p e progress).1.members = w.members ∧
      ∀ due answer r, progress = .requesting due answer → due ≤ w.now → resolveAnswer e answer = .ok r →
        (w.turnBringUp p e progress).2 = .done (.error (.serviceRemoved p.service.name)) := by
  have ended (result : Except InitialisationError PayloadKind) (w : World) :
      Adds (·.isPlain = true) w (w.endBringUp p e result).1 ∧
        (w.endBringUp p e result).1.members = w.members :=
    ⟨adds_endBringUp (fun _ plain => plain) p e result w,
      endBringUp_congr (f := members) (fun _ _ => rfl) p e result w⟩
  cases progress with
  | pending =>
    simp only [turnBringUp]
    rw [beginBringUp_stopped stopped]
    obtain ⟨adds, members⟩ := ended (.error (.serviceRemoved p.service.name))
      (w.say (bringUpStarted p.service e))
    have begun : Adds (·.isPlain = true) w (w.say (bringUpStarted p.service e)) :=
      adds_say (fun _ plain => plain) (component_bringUpEntry _ _ _ _ _) w
    exact ⟨begun.trans adds, members, fun _ _ _ h => by cases h⟩
  | requesting due answer =>
    simp only [turnBringUp]
    split
    · obtain ⟨err, concluded, removed⟩ := concludeBringUp_stopped stopped e answer
      rw [concluded]
      obtain ⟨adds, members⟩ := ended (.error err)
        { w.record (.answered (bringUpRequest p e)) with endpoints := w.endpoints.release e.name }
      have answered : Adds (·.isPlain = true) w (w.record (.answered (bringUpRequest p e))) :=
        adds_record (by rfl) w
      have released : Adds (·.isPlain = true) w
          { w.record (.answered (bringUpRequest p e)) with
            endpoints := w.endpoints.release e.name } :=
        answered.trans (.of_history rfl)
      refine ⟨released.trans adds, members, ?_⟩
      rintro _ _ r ⟨⟩ - usable
      rw [removed r usable]
      rfl
    · next early =>
      refine ⟨.refl w, rfl, ?_⟩
      rintro _ _ r ⟨⟩ now
      exact absurd now early
  | done result => exact ⟨.refl w, rfl, fun _ _ _ h => by cases h⟩

end Stopped

end World

namespace Scene

/-- A session that has been stopped stays so. -/
theorem holds_take (h : x.world.Holds key m) (mv : Move) : (x.take mv).world.Holds key m := by
  rcases x.sessions_take mv with tended | ⟨new, -, -, hworld⟩ | ⟨other, e, hmembers, -⟩
  · exact h.tended tended
  · rw [hworld]
    exact h.addMember new
  · exact (h.addEndpoint other e).tended (.of_members hmembers)

/-- Nothing that a move writes is a trace of a session that has been stopped. -/
theorem Writes.isTraceOf {mv : Move} {event : Happening} (writes : x.Writes mv event)
    (h : x.world.Holds key m) : event.isTraceOf key = false := by
  have foreign {other : SessionKey} (live : x.world.isStopped other = false) :
      (other == key) = false := by
    rw [beq_eq_false_iff_ne]
    rintro rfl
    rw [h.isStopped] at live
    cases live
  cases writes with
  | plain _ plain =>
    cases event with
    | requested | topicAsked => cases plain
    | _ => rfl
  | request there pending live =>
    simp only [Happening.isTraceOf, World.bringUpRequest, foreign live, Bool.false_and]
  | @topic n t r there resolved live =>
    unfold Pass.asksTopic
    cases t.pass.client with
    | standIn => exact foreign live
    | logOnly k => rfl
  | poll => exact Bool.and_false _
  | publication =>
    unfold Member.publishes
    split <;> rfl

theorem holds_run (h : x.world.Holds key m) (moves : List Move) :
    (x.run moves).world.Holds key m ∧
      Adds (·.isTraceOf key = false) x.world (x.run moves).world := by
  induction moves using List.reverseRecOn with
  | nil => exact ⟨h, .refl _⟩
  | append_singleton past mv ih =>
    obtain ⟨held, adds⟩ := ih
    rw [run_concat]
    exact ⟨holds_take held mv,
      adds.trans (((x.run past).adds_take mv).mono fun _ writes => writes.isTraceOf held)⟩

/-! ## Passes that have not begun -/

theorem member?_setSession_self (held : w.member? key = some m) (other : SessionKey) :
    (w.setSession key m.session).member? other = w.member? other := by
  rw [World.member?_setSession]
  by_cases own : other = key
  · subst own
    simp [held]
  · simp [own]

theorem startSession_stopped (held : w.member? key = some m) (ended : m.session.stopped = true) :
    w.startSession key = ((w.setSession key m.session).say (m.session.ignoredEntry "start"), false) := by
  simp [World.startSession, held, Polling.Session.start, ended, World.settleSession,
    World.performSession]

/-- Nothing comes of a pass over a service whose session has been stopped. -/
theorem take_begin_stopped (held : x.world.member? key = some m) (ended : m.session.stopped = true)
    {n : Nat} {p : Pass} (there : x.waiting[n]? = some p) (hp : p.session = key)
    (whole : p.wholeService = true) :
    x.take (.begin n) =
      { x with
        world := (x.world.setSession key m.session).say (m.session.ignoredEntry "start")
        waiting := x.waiting.eraseIdx n } := by
  subst hp
  simp [take, there, begin, whole, startSession_stopped held ended]

theorem turnPass_stopped (held : w.member? key = some m) (ended : m.session.stopped = true)
    {p : Pass} (hp : p.session = key) (whole : p.wholeService = true) (begun : p.begun = false) :
    w.turnPass p =
      ((w.setSession key m.session).say (m.session.ignoredEntry "start"), none, []) := by
  subst hp
  simp [World.turnPass, whole, begun, startSession_stopped held ended]

/-! ## Bring-ups in their first request -/

/-- How often a bring-up goes on in a run. -/
def resumptions (n : Nat) (moves : List Move) : Nat :=
  moves.countP fun
    | .resume k => k == n
    | _ => false

theorem resume_stranded {p : Pass} {e : EndpointConfig} {answer : Answer} {r : Resolved}
    (stopped : w.isStopped p.session = true) (usable : resolveAnswer e answer = .ok r) (k : Nat) :
    (w.resume p e (.stranded p.service.name answer r k)).2 =
      .stranded p.service.name answer r (k + 1) := by
  match k with
  | 0 => simp [World.resume, Phase.stranded, usable]
  | 1 => simp [World.resume, Phase.stranded, stopped, World.close]
  | k + 2 => rfl

theorem errand_take {t : Errand} {n : Nat} (there : x.errands[n]? = some t) (mv : Move)
    (other : mv ≠ .resume n) : (x.take mv).errands[n]? = some t := by
  have inside : n < x.errands.length := by
    by_contra hn
    rw [List.getElem?_eq_none (Nat.le_of_not_lt hn)] at there
    cases there
  cases mv with
  | launch | activate | initialise =>
    simp only [take]
    split <;> exact there
  | begin k =>
    simp only [take]
    split
    · rw [← there]
      exact List.getElem?_append_left inside
    · exact there
  | resume k =>
    have hne : k ≠ n := fun h => other (h ▸ rfl)
    simp only [take]
    split
    · rw [← there]
      exact List.getElem?_set_ne hne
    · exact there
  | start | stop | track | cycle | register | script | outcomes | clock => exact there

theorem errand_run {p : Pass} {e : EndpointConfig} {answer : Answer} {r : Resolved} {n : Nat}
    (usable : resolveAnswer e answer = .ok r) :
    ∀ (moves : List Move) {x : Scene} {k : Nat}, x.world.Holds p.session m →
      x.errands[n]? = some ⟨p, e, .stranded p.service.name answer r k⟩ →
      (x.run moves).errands[n]? =
        some ⟨p, e, .stranded p.service.name answer r (k + resumptions n moves)⟩
  | [], _, _, _, there => there
  | mv :: rest, x, k, held, there => by
    have held' := holds_take held mv
    by_cases own : mv = .resume n
    · subst own
      have gone : (x.take (.resume n)).errands[n]? =
          some ⟨p, e, .stranded p.service.name answer r (k + 1)⟩ := by
        have next := resume_stranded (p := p) held.isStopped usable k
        have inside : n < x.errands.length := (List.getElem?_eq_some_iff.1 there).1
        simp only [take, there]
        rw [List.getElem?_set_self inside, next]
      have rest' := errand_run usable rest held' gone
      have counted : resumptions n (.resume n :: rest) = resumptions n rest + 1 := by
        simp [resumptions]
      rw [counted, ← Nat.add_assoc, Nat.add_right_comm]
      exact rest'
    · have rest' := errand_run usable rest held' (errand_take there mv own)
      have counted : resumptions n (mv :: rest) = resumptions n rest := by
        unfold resumptions
        rw [List.countP_cons_of_neg]
        cases mv with
        | resume k => simpa using fun h : k = n => own (h ▸ rfl)
        | _ => simp
      rw [counted]
      exact rest'

/-! ## No trace -/

/-- A session that has been stopped leaves no trace. In every scene, whatever its bring-ups and those
of other sessions are suspended in, and whatever moves follow:

* in what the history has gained, no bring-up of the session has sent a request or asked for a topic;
* wherever a bring-up of the session goes on next, it writes the end of its first request and log
  entries of the adapter alone, and no session changes; so does a turn that the world takes of it at
  once, which ends it because the service was removed if its request is answered usably;
* no endpoint is added to the session, and no handler is made for one, however it comes to be added;
* a pass over its service that has not begun does nothing but write one entry: the sessions stay as
  they are, no bring-up begins and no task does;
* a bring-up whose first request is under way, and will be answered usably, stays there until it
  goes on, and then looks at its session and ends, because the service was removed. -/
theorem no_trace_once_stopped (x : Scene) (key : SessionKey) (m : Member)
    (held : x.world.member? key = some m) (ended : m.session.stopped = true) (moves : List Move) :
    let c := x.run moves
    (∃ fresh, c.world.history = fresh ++ x.world.history ∧
      ∀ entry ∈ fresh, entry.2.isTraceOf key = false) ∧
    ((∀ n (t : Errand), c.errands[n]? = some t → t.pass.session = key →
        Adds (·.isPlain = true) c.world (c.take (.resume n)).world ∧
        ∀ other, (c.take (.resume n)).world.member? other = c.world.member? other) ∧
      ∀ (p : Pass) (e : EndpointConfig) (progress : Progress), p.session = key →
        Adds (·.isPlain = true) c.world (c.world.turnBringUp p e progress).1 ∧
        (c.world.turnBringUp p e progress).1.members = c.world.members ∧
        ∀ due answer r, progress = .requesting due answer → due ≤ c.world.now →
          resolveAnswer e answer = .ok r →
          (c.world.turnBringUp p e progress).2 = .done (.error (.serviceRemoved p.service.name))) ∧
    (∃ m', c.world.member? key = some m' ∧ m'.session.stopped = true ∧
      (∀ slot ∈ m'.session.slots, slot.config.name ∈ m.session.endpoints) ∧
      (∀ (create : EndpointConfig → Except ServiceError Handler) now e,
        m'.session.add create now e =
          (m'.session, .ok (), [.log (m'.session.ignoredEntry "add_endpoint")])) ∧
      ∃ w, (∀ other, w.member? other = c.world.member? other) ∧ w.agenda = c.world.agenda ∧
        w.history = (c.world.now, .logged (m'.session.ignoredEntry "start")) :: c.world.history ∧
        ∀ p : Pass, p.session = key → p.wholeService = true →
          (∀ n, c.waiting[n]? = some p →
            c.take (.begin n) = { c with world := w, waiting := c.waiting.eraseIdx n }) ∧
          (p.begun = false → c.world.turnPass p = (w, none, []))) ∧
    ∀ (n : Nat) (p : Pass) (e : EndpointConfig) (answer : Answer) (r : Resolved),
      x.errands[n]? = some ⟨p, e, .asked answer⟩ → p.session = key →
      resolveAnswer e answer = .ok r →
      c.errands[n]? = some ⟨p, e, .stranded p.service.name answer r (resumptions n moves)⟩ := by
  intro c
  have start : x.world.Holds key m := ⟨m, held, ended, Kept.refl m.session⟩
  obtain ⟨holds, traceless⟩ := holds_run start moves
  have stopped := holds.isStopped
  obtain ⟨m', held', ended', kept⟩ := holds
  refine ⟨traceless, ⟨fun n t there own => ?_, ?_⟩, ⟨m', held', ended', fun slot hs => ?_,
    fun create now e => ?_, ?_⟩, fun n p e answer r there hp usable => ?_⟩
  · rw [← own] at stopped
    simp only [take, there]
    exact ⟨World.plain_resume stopped t.endpoint t.phase,
      World.member?_resume_stopped stopped t.endpoint t.phase⟩
  · rintro p e progress rfl
    exact World.turnBringUp_stopped stopped e progress
  · obtain ⟨before, hbefore, hreg, -⟩ := kept.slots slot hs
    simp only [Slot.registration, Prod.mk.injEq] at hreg
    rw [← hreg.2]
    exact List.mem_map_of_mem hbefore
  · simp [Polling.Session.add, ended']
  · refine ⟨(c.world.setSession key m'.session).say (m'.session.ignoredEntry "start"),
      member?_setSession_self held', rfl, rfl, fun p hp whole => ⟨fun n there => ?_,
      turnPass_stopped held' ended' hp whole⟩⟩
    exact take_begin_stopped held' ended' there hp whole
  · subst hp
    have stranded := errand_run usable moves (k := 0) start there
    rw [Nat.zero_add] at stranded
    exact stranded

/-- A service with one endpoint. -/
def removedService : ServiceConfig :=
  Fixtures.service "rates" 1000 [Fixtures.endpoint "quotes" .binary]

/-- The session of the service has been stopped while its bring-up was in the first request, and the
service has become active once more. -/
def removedScene : Scene :=
  let endpoints : Endpoints := { scripts := [("quotes", { repeated := some (.ok { status := 200 }) })] }
  run { world := { endpoints } }
    [.launch ⟨.manager, 0⟩ removedService .standIn false none, .activate ⟨.manager, 0⟩, .begin 0,
      .resume 0, .activate ⟨.manager, 0⟩, .stop ⟨.manager, 0⟩]

/-- The answer comes after that, and so does the beginning of the other pass. -/
theorem no_trace_removedScene :
    let c := removedScene.run [.resume 0, .begin 0, .resume 0]
    ∃ m, removedScene.world.member? ⟨.manager, 0⟩ = some m ∧ m.session.stopped = true ∧
      (∃ fresh, c.world.history = fresh ++ removedScene.world.history ∧
        ∀ entry ∈ fresh, entry.2.isTraceOf ⟨.manager, 0⟩ = false) ∧
      c.errands[0]? =
        some ⟨.ofService removedService ⟨.manager, 0⟩ .standIn, Fixtures.endpoint "quotes" .binary,
          .ended (.error (.serviceRemoved "rates"))⟩ := by
  intro c
  have there : (removedScene.world.member? ⟨.manager, 0⟩).isSome = true := by decide +kernel
  obtain ⟨m, held⟩ := Option.isSome_iff_exists.1 there
  have ended : m.session.stopped = true := by
    have all : (removedScene.world.member? ⟨.manager, 0⟩).all (·.session.stopped) = true := by
      decide +kernel
    rw [held] at all
    exact all
  obtain ⟨traceless, -, -, stranded⟩ := no_trace_once_stopped removedScene ⟨.manager, 0⟩ m held ended
    [.resume 0, .begin 0, .resume 0]
  exact ⟨m, held, ended, traceless, stranded 0 _ _ (.ok { status := 200 }) _ rfl rfl rfl⟩

end Scene
end TopicRelay.Simulation
