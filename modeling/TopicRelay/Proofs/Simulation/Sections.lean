/-
Bring-ups under every interleaving. A bring-up is suspended while its first request is under way,
before it looks at its session again, while its topic is being created, and before its endpoint is
tracked. A scene is a world with passes that have not begun and bring-ups that are suspended; a move
lets one of them go on to its next suspension, lets a session or one of its cycles do something, or
changes a registry, the scripts, the broker or the clock. Moves come in any order: anything can happen
while a bring-up is suspended, and a request takes as long as it takes.

Without anything in between, the parts of a bring-up make up the turn of it that the world takes
(`concludeBringUp_eq_resumeAll`).
-/
import TopicRelay.Simulation.BringUp
import TopicRelay.Proofs.Polling.Silence

namespace TopicRelay.Simulation

open TopicRelay.Broker TopicRelay.Config TopicRelay.Content TopicRelay.Control
open TopicRelay.Polling TopicRelay.Publication

/-! ## Bring-ups between suspensions -/

/-- Where a bring-up is suspended. -/
inductive Phase where
  | pending
  /-- The first request is under way, to be answered in some way. -/
  | asked (answer : Answer)
  /-- The endpoint is resolved; the session is yet to be looked at again. -/
  | resolved (r : Resolved)
  /-- The topic is being created, which ends in some way. -/
  | creating (r : Resolved) (outcome : Except TopicCreationError TopicCreation)
  /-- The topic is there; the service is yet to be looked up. -/
  | created (r : Resolved)
  /-- The service is registered; the endpoint is yet to be tracked. -/
  | admitted (r : Resolved)
  | ended (result : Except InitialisationError PayloadKind)

namespace World

/-- Ends a bring-up. -/
def close (p : Pass) (e : EndpointConfig) (result : Except InitialisationError PayloadKind)
    (w : World) : World × Phase :=
  ((w.endBringUp p e result).1, .ended result)

/-- Lets a bring-up go on to its next suspension. -/
def resume (p : Pass) (e : EndpointConfig) (w : World) : Phase → World × Phase
  | .pending =>
    let w := w.say (bringUpStarted p.service e)
    if w.isStopped p.session then w.close p e (.error (.serviceRemoved p.service.name))
    else
      let (endpoints, answer, _) := w.endpoints.request e.name
      ({ w.record (.requested (bringUpRequest p e)) with endpoints }, .asked answer)
  | .asked answer =>
    let w := w.record (.answered (bringUpRequest p e))
    let w := { w with endpoints := w.endpoints.release e.name }
    match resolveAnswer e answer with
    | .error err => w.close p e (.error err)
    | .ok r => (w, .resolved r)
  | .resolved r =>
    if w.isStopped p.session then w.close p e (.error (.serviceRemoved p.service.name))
    else
      let (w, outcome) := w.createTopic p.client p.session p.service r
      (w, .creating r outcome)
  | .creating r outcome =>
    match outcome with
    | .error err => w.close p e (.error (.topicCreationFailed err))
    | .ok .created => (w, .created r)
    | .ok .alreadyExists => (w.say (topicExists p.service e), .created r)
  | .created r =>
    if (w.registry p.client).isRegistered p.service.name then (w, .admitted r)
    else w.close p e (.error (.serviceRemoved p.service.name))
  | .admitted r =>
    let (w, result) := w.addEndpoint p.session r.pinned
    match result with
    | .ok _ => w.close p e (.ok r.kind)
    | .error err => w.close p e (.error (.updateContextUnavailable err))
  | .ended result => (w, .ended result)

/-- Lets a bring-up go on over so many suspensions. -/
def resumeAll (p : Pass) (e : EndpointConfig) : Nat → World → Phase → World × Phase
  | 0, w, phase => (w, phase)
  | n + 1, w, phase =>
    let (w, phase) := w.resume p e phase
    resumeAll p e n w phase

theorem resumeAll_succ (p : Pass) (e : EndpointConfig) (n : Nat) (w : World) (phase : Phase) :
    resumeAll p e (n + 1) w phase =
      resumeAll p e n (w.resume p e phase).1 (w.resume p e phase).2 :=
  rfl

@[simp]
theorem resumeAll_ended (p : Pass) (e : EndpointConfig) (n : Nat) (w : World)
    (result : Except InitialisationError PayloadKind) :
    resumeAll p e n w (.ended result) = (w, .ended result) := by
  induction n with
  | zero => rfl
  | succ n ih => exact ih

/-- The rest of a bring-up whose topic is being created. -/
theorem resumeAll_creating (p : Pass) (e : EndpointConfig) (r : Resolved)
    (outcome : Except TopicCreationError TopicCreation) (w : World) :
    resumeAll p e 3 w (.creating r outcome) =
      (((w.takeCreation p e r outcome).1.endBringUp p e (w.takeCreation p e r outcome).2).1,
        .ended (w.takeCreation p e r outcome).2) := by
  have tracked (w : World) : resumeAll p e 2 w (.created r) =
      (((w.trackResolved p r).1.endBringUp p e (w.trackResolved p r).2).1,
        .ended (w.trackResolved p r).2) := by
    unfold trackResolved
    by_cases registered : (w.registry p.client).isRegistered p.service.name = true
    · cases added : (w.addEndpoint p.session r.pinned).2 with
      | ok u => simp [resumeAll, resume, close, registered, added]
      | error err => simp [resumeAll, resume, close, registered, added]
    · simp [resumeAll, resume, close, registered]
  match outcome with
  | .error err => rfl
  | .ok .created => exact tracked w
  | .ok .alreadyExists => exact tracked (w.say (topicExists p.service e))

theorem resumeAll_resolved (p : Pass) (e : EndpointConfig) (r : Resolved) (w : World) :
    resumeAll p e 4 w (.resolved r) =
      (((w.bindResolved p e r).1.endBringUp p e (w.bindResolved p e r).2).1,
        .ended (w.bindResolved p e r).2) := by
  unfold bindResolved
  by_cases stopped : w.isStopped p.session = true
  · simp [resumeAll_succ, resume, close, stopped]
  · have asked : w.resume p e (.resolved r) =
        ((w.createTopic p.client p.session p.service r).1,
          .creating r (w.createTopic p.client p.session p.service r).2) := by
      simp only [resume]
      rw [if_neg stopped]
    rw [resumeAll_succ, asked, resumeAll_creating, if_neg stopped]

/-- The parts of a bring-up from its first answer on are what a turn of it does at once. -/
theorem concludeBringUp_eq_resumeAll (p : Pass) (e : EndpointConfig) (answer : Answer) (w : World) :
    ∃ result, (resumeAll p e 5 w (.asked answer)).2 = .ended result ∧
      w.concludeBringUp p e answer = ((resumeAll p e 5 w (.asked answer)).1, .done result) := by
  unfold concludeBringUp
  cases settled : resolveAnswer e answer with
  | error err => exact ⟨.error err, by simp [resumeAll_succ, resume, close, settled, endBringUp]⟩
  | ok r =>
    have answered : w.resume p e (.asked answer) =
        ({ w.record (.answered (bringUpRequest p e)) with
          endpoints := w.endpoints.release e.name }, .resolved r) := by
      simp only [resume, settled]
      rfl
    rw [resumeAll_succ, answered, resumeAll_resolved]
    exact ⟨_, rfl, rfl⟩

/-- So is the first part of a bring-up, together with the others if its answer comes at once. -/
theorem beginBringUp_eq_resume (p : Pass) (e : EndpointConfig) (w : World) :
    w.beginBringUp p e =
      match w.resume p e .pending with
      | (w₁, .asked answer) =>
        if (w.endpoints.request e.name).2.2 = 0 then w₁.concludeBringUp p e answer
        else (w₁, .requesting (w₁.now + (w.endpoints.request e.name).2.2) answer)
      | (w₁, .ended result) => (w₁, .done result)
      | (w₁, _) => (w₁, .pending) := by
  unfold beginBringUp
  by_cases stopped : (w.say (bringUpStarted p.service e)).isStopped p.session = true
  · simp [resume, close, stopped, endBringUp]
  · simp only [resume, stopped]
    rfl

end World

/-! ## Scenes -/

/-- The bring-up of one endpoint, which has been suspended. -/
structure Errand where
  pass : Pass
  endpoint : EndpointConfig
  phase : Phase

/-- A world with passes that have not begun and bring-ups that are suspended. -/
structure Scene where
  world : World
  waiting : List Pass := []
  errands : List Errand := []

/-- A step of a cycle. -/
inductive CycleStep where
  | prepare
  /-- The request is sent, to be answered in some way at some time. -/
  | send (due : Nat) (answer : Answer)
  | receive
  | conclude
  | drop

/-- Takes a step of the cycle of an epoch. -/
def CycleStep.take (now epoch : Nat) (s : Polling.Session Handler) :
    CycleStep → Polling.Session Handler × List (CycleEffect Handler)
  | .prepare => s.prepare now epoch
  | .send due answer => s.send due answer epoch
  | .receive => s.receive now epoch
  | .conclude => s.conclude now epoch
  | .drop => s.dropCycle epoch

namespace Scene

/-- What can happen next. -/
inductive Move where
  /-- A new session of a service is held under a key that is free. -/
  | launch (key : SessionKey) (service : ServiceConfig) (client : Client) (counted : Bool)
      (stopOn : Option Trigger)
  /-- The service of a session becomes active. -/
  | activate (key : SessionKey)
  /-- An endpoint is to be brought up for the service of a session. -/
  | initialise (key : SessionKey) (e : EndpointConfig)
  /-- A pass that waits begins. -/
  | begin (n : Nat)
  /-- A bring-up goes on to its next suspension. -/
  | resume (n : Nat)
  | start (key : SessionKey)
  | stop (key : SessionKey)
  /-- An endpoint is added to a session by hand. -/
  | track (key : SessionKey) (e : EndpointConfig)
  | cycle (key : SessionKey) (epoch : Nat) (step : CycleStep)
  /-- The sources of a client are anything from now on. -/
  | register (client : Client) (r : Registry Hook)
  | script (endpoints : Endpoints)
  | outcomes (broker : StandInBroker)
  | clock (now : Nat)

/-- A pass begins: if it is over the whole service and the session has been stopped, nothing comes of
it, and otherwise its bring-ups do. -/
def begin (x : Scene) (n : Nat) (p : Pass) : Scene :=
  let (w, live) :=
    if p.wholeService then x.world.startSession p.session else (x.world, true)
  { world := w, waiting := x.waiting.eraseIdx n
    errands := x.errands ++
      if live then p.parts.map fun part => { pass := p, endpoint := part.1, phase := .pending }
      else [] }

/-- Takes a move. -/
def take (x : Scene) : Move → Scene
  | .launch key service client counted stopOn =>
    if (x.world.member? key).isSome then x
    else
      { x with
        world := x.world.addMember { key, session := { service }, client, counted, stopOn } }
  | .activate key =>
    match x.world.member? key with
    | some m => { x with waiting := x.waiting ++ [.ofService m.session.service key m.client] }
    | none => x
  | .initialise key e =>
    match x.world.member? key with
    | some m => { x with waiting := x.waiting ++ [.ofEndpoint m.session.service e key m.client] }
    | none => x
  | .begin n =>
    match x.waiting[n]? with
    | some p => x.begin n p
    | none => x
  | .resume n =>
    match x.errands[n]? with
    | some t =>
      let (w, phase) := x.world.resume t.pass t.endpoint t.phase
      { x with world := w, errands := x.errands.set n { t with phase } }
    | none => x
  | .start key => { x with world := (x.world.startSession key).1 }
  | .stop key => { x with world := x.world.stopSession key }
  | .track key e => { x with world := (x.world.addEndpoint key e).1 }
  | .cycle key epoch step =>
    { x with world := x.world.moveCycle key fun s => step.take x.world.now epoch s }
  | .register client r => { x with world := x.world.setRegistry client r }
  | .script endpoints => { x with world := { x.world with endpoints } }
  | .outcomes broker => { x with world := { x.world with broker } }
  | .clock now => { x with world := { x.world with now } }

/-- Takes moves one after the other. -/
def run (x : Scene) (moves : List Move) : Scene :=
  moves.foldl take x

theorem run_concat (x : Scene) (moves : List Move) (mv : Move) :
    x.run (moves ++ [mv]) = (x.run moves).take mv :=
  List.foldl_concat ..

end Scene

/-! ## What moves leave as it is -/

/-- A session after which no endpoint has been added: it polls the same service, has not come back
from its end, and its slots are what is left of those it had. -/
structure Kept (s s' : Polling.Session Handler) : Prop where
  service : s'.service = s.service
  ended : s.stopped = true → s'.stopped = true
  slots : ∀ slot' ∈ s'.slots, ∃ slot ∈ s.slots,
    slot.registration = slot'.registration ∧ slot.handler = slot'.handler

variable {s s' s'' : Polling.Session Handler}

theorem Kept.refl (s : Polling.Session Handler) : Kept s s :=
  ⟨rfl, id, fun slot hs => ⟨slot, hs, rfl, rfl⟩⟩

theorem Kept.trans (h : Kept s s') (h' : Kept s' s'') : Kept s s'' where
  service := h'.service.trans h.service
  ended := fun ended => h'.ended (h.ended ended)
  slots := by
    intro slot'' hs''
    obtain ⟨slot', hs', hreg', hhandler'⟩ := h'.slots slot'' hs''
    obtain ⟨slot, hs, hreg, hhandler⟩ := h.slots slot' hs'
    exact ⟨slot, hs, hreg.trans hreg', hhandler.trans hhandler'⟩

theorem kept_start (now : Nat) (s : Polling.Session Handler) : Kept s (s.start now).1 := by
  unfold Polling.Session.start
  split
  · exact Kept.refl s
  · refine ⟨rfl, id, fun slot' hs' => ?_⟩
    obtain ⟨slot, hs, rfl⟩ := List.mem_map.1 hs'
    exact ⟨slot, hs, rfl, rfl⟩

theorem kept_stop (s : Polling.Session Handler) : Kept s s.stop.1 :=
  ⟨rfl, fun _ => rfl, List.forall_mem_nil _⟩

theorem step_cycleStep (now epoch : Nat) (s : Polling.Session Handler) (step : CycleStep) :
    s.Step (step.take now epoch s).1 ((step.take now epoch s).2.map .cycle) := by
  cases step with
  | prepare => exact s.step_prepare now epoch
  | send due answer => exact s.step_send due answer epoch
  | receive => exact s.step_receive now epoch
  | conclude => exact s.step_conclude now epoch
  | drop => exact s.step_dropCycle epoch

theorem kept_cycleStep (now epoch : Nat) (s : Polling.Session Handler) (step : CycleStep) :
    Kept s (step.take now epoch s).1 := by
  have moved := step_cycleStep now epoch s step
  have cyclic : ∀ e, Deed.operation e ∉ (step.take now epoch s).2.map Deed.cycle := by simp
  generalize (step.take now epoch s).1 = s', (step.take now epoch s).2.map Deed.cycle = ds
    at moved cyclic
  cases moved with
  | idle | ignored | tracked => exact Kept.refl s
  | started now live => exact absurd (List.mem_cons_self ..) (cyclic _)
  | added now e handler live new =>
    refine absurd (List.mem_map_of_mem ?_) (cyclic (.log (s.addedEntry e)))
    exact List.mem_append_right _ (List.mem_singleton_self _)
  | stopped => exact kept_stop s
  | advanced | dropped => exact ⟨rfl, id, fun slot hs => ⟨slot, hs, rfl, rfl⟩⟩

/-- The sessions of a world after nothing but moves that add no endpoint. -/
def Tended (w w' : World) : Prop :=
  ∀ key, match w.member? key with
    | some m => ∃ m', w'.member? key = some m' ∧ m'.client = m.client ∧ Kept m.session m'.session
    | none => w'.member? key = none

variable {w w' w'' : World}

theorem Tended.of_members (h : w'.members = w.members) : Tended w w' := by
  intro key
  have same : w'.member? key = w.member? key := by rw [World.member?, World.member?, h]
  rw [same]
  cases w.member? key with
  | some m => exact ⟨m, rfl, rfl, Kept.refl m.session⟩
  | none => rfl

theorem Tended.refl (w : World) : Tended w w :=
  .of_members rfl

theorem Tended.trans (h : Tended w w') (h' : Tended w' w'') : Tended w w'' := by
  intro key
  have first := h key
  have second := h' key
  cases there : w.member? key with
  | some m =>
    rw [there] at first
    obtain ⟨m', there', hclient, kept⟩ := first
    rw [there'] at second
    obtain ⟨m'', there'', hclient', kept'⟩ := second
    exact ⟨m'', there'', hclient'.trans hclient, kept.trans kept'⟩
  | none =>
    rw [there] at first
    rw [first] at second
    exact second

namespace World

theorem key_of_member? {key : SessionKey} {m : Member} (there : w.member? key = some m) :
    m.key = key := by
  simpa using List.find?_some there

theorem member?_mapMember (key : SessionKey) (f : Member → Member) (hf : ∀ m, (f m).key = m.key)
    (w : World) (other : SessionKey) :
    (w.mapMember key f).member? other =
      (w.member? other).map fun m => if other = key then f m else m := by
  have found : (w.mapMember key f).member? other =
      (w.member? other).map fun m => if m.key == key then f m else m := by
    unfold member? mapMember
    rw [List.find?_map]
    congr 2
    funext m
    simp only [Function.comp]
    split
    · rw [hf]
    · rfl
  rw [found]
  cases there : w.member? other with
  | none => rfl
  | some m =>
    obtain rfl := key_of_member? there
    simp

theorem member?_setSession (key : SessionKey) (s : Polling.Session Handler) (w : World)
    (other : SessionKey) : (w.setSession key s).member? other =
      (w.member? other).map fun m => if other = key then { m with session := s } else m :=
  member?_mapMember key (fun m => { m with session := s }) (fun _ => rfl) w other

theorem members_performSession (key : SessionKey) :
    ∀ (effects : List SessionEffect) (w : World),
      (effects.foldl (performSession key) w).members = w.members
  | [], _ => rfl
  | e :: rest, w => by
    rw [List.foldl_cons, members_performSession key rest]
    cases e <;> rfl

theorem member?_settleSession (key : SessionKey) (s : Polling.Session Handler)
    (effects : List SessionEffect) (w : World) (other : SessionKey) :
    (w.settleSession key s effects).member? other =
      (w.member? other).map fun m => if other = key then { m with session := s } else m := by
  rw [settleSession, member?, members_performSession]
  exact member?_setSession key s w other

/-- A session that is kept may take the place of the one it comes from. -/
theorem tended_settleSession {key : SessionKey} {m : Member} {s : Polling.Session Handler}
    (there : w.member? key = some m) (kept : Kept m.session s) (effects : List SessionEffect) :
    Tended w (w.settleSession key s effects) := by
  intro other
  rw [member?_settleSession]
  cases found : w.member? other with
  | none => rfl
  | some x =>
    refine ⟨_, rfl, ?_⟩
    dsimp only
    split
    · next same =>
      subst same
      rw [there] at found
      cases found
      exact ⟨rfl, kept⟩
    · exact ⟨rfl, Kept.refl x.session⟩

theorem tended_startSession (key : SessionKey) (w : World) : Tended w (w.startSession key).1 := by
  unfold startSession
  cases there : w.member? key with
  | none => exact Tended.refl w
  | some m => exact tended_settleSession there (kept_start w.now m.session) _

theorem tended_stopSession (key : SessionKey) (w : World) : Tended w (w.stopSession key) := by
  unfold stopSession
  cases there : w.member? key with
  | none => exact Tended.refl w
  | some m => exact tended_settleSession there (kept_stop m.session) _

theorem tended_mapMember (key : SessionKey) (f : Member → Member)
    (hf : ∀ m, (f m).key = m.key ∧ (f m).client = m.client ∧ (f m).session = m.session)
    (w : World) : Tended w (w.mapMember key f) := by
  intro other
  rw [member?_mapMember key f (fun m => (hf m).1)]
  cases w.member? other with
  | none => rfl
  | some m =>
    refine ⟨_, rfl, ?_⟩
    dsimp only
    split
    · exact ⟨(hf m).2.1, (hf m).2.2 ▸ Kept.refl m.session⟩
    · exact ⟨rfl, Kept.refl m.session⟩

theorem tended_pollEvent (key : SessionKey) (ev : PollEvent) (w : World) :
    Tended w (w.pollEvent key ev) := by
  unfold pollEvent
  cases w.member? key with
  | none => exact Tended.refl w
  | some m =>
    dsimp only
    generalize hw : (if m.counted then { w with metrics := w.metrics.count ev } else w) = w₁
    have counted : Tended w w₁ := by
      subst hw
      split <;> exact .of_members rfl
    split
    · have disarmed := tended_mapMember key (fun m => { m with stopOn := none })
        (fun _ => ⟨rfl, rfl, rfl⟩) w₁
      exact (counted.trans disarmed).trans (tended_stopSession key _)
    · exact counted

section Frame

/-! What handlers and bring-ups write into the history makes no difference to what does not depend on
it. -/

variable {α : Type} {f : World → α} (record : ∀ h w, f (w.record h) = f w)
include record

theorem handle_congr (m : Member) (h : Handler) (answer : Answer) (w : World) :
    f (w.handle m h answer) = f w := by
  unfold handle publish
  split
  · exact record _ w
  · next v _ =>
    cases h.target.check v with
    | error e => exact record _ w
    | ok u => cases m.client <;> exact (record _ _).trans (record _ w)

theorem createTopic_congr (c : Client) (session : SessionKey) (s : ServiceConfig) (r : Resolved)
    (w : World) : f (w.createTopic c session s r).1 = f w := by
  cases c <;> exact record _ w

theorem endBringUp_congr (p : Pass) (e : EndpointConfig)
    (result : Except InitialisationError PayloadKind) (w : World) :
    f (w.endBringUp p e result).1 = f w := by
  unfold endBringUp
  cases p.wholeService with
  | true => exact record _ w
  | false => exact (record _ _).trans (record _ w)

/-- Until its endpoint is tracked, a bring-up does nothing else but send a request. -/
theorem resume_congr (endpoints : ∀ es w, f { w with endpoints := es } = f w) (p : Pass)
    (e : EndpointConfig) (w : World) {phase : Phase} (early : ∀ r, phase ≠ .admitted r) :
    f (w.resume p e phase).1 = f w := by
  cases phase with
  | pending =>
    simp only [resume]
    split
    · exact (endBringUp_congr record p e _ _).trans (record _ w)
    · exact (endpoints _ _).trans ((record _ _).trans (record _ w))
  | asked answer =>
    have taken : f { w.record (.answered (bringUpRequest p e)) with
        endpoints := w.endpoints.release e.name } = f w := (endpoints _ _).trans (record _ w)
    simp only [resume]
    split
    · exact (endBringUp_congr record p e _ _).trans taken
    · exact taken
  | resolved r =>
    simp only [resume]
    split
    · exact endBringUp_congr record p e _ w
    · exact createTopic_congr record p.client p.session p.service r w
  | creating r outcome =>
    cases outcome with
    | error err => exact endBringUp_congr record p e _ w
    | ok creation =>
      cases creation with
      | created => rfl
      | alreadyExists => exact record _ w
  | created r =>
    simp only [resume]
    split
    · rfl
    · exact endBringUp_congr record p e _ w
  | admitted r => exact absurd rfl (early r)
  | ended result => rfl

end Frame

theorem tended_performCycle (m : Member) (w : World) (e : CycleEffect Handler) :
    Tended w (w.performCycle m e) := by
  cases e with
  | log | send | settle | abandon => exact .of_members rfl
  | tell ev => exact tended_pollEvent m.key ev w
  | deliver c h answer => exact .of_members (handle_congr (f := members) (fun _ _ => rfl) m h answer w)

theorem tended_performCycles (m : Member) :
    ∀ (effects : List (CycleEffect Handler)) (w : World),
      Tended w (effects.foldl (performCycle m) w)
  | [], w => Tended.refl w
  | e :: rest, w => (tended_performCycle m w e).trans (tended_performCycles m rest _)

theorem tended_moveCycle (key : SessionKey) (now epoch : Nat) (step : CycleStep) (w : World) :
    Tended w (w.moveCycle key fun s => step.take now epoch s) := by
  unfold moveCycle
  cases there : w.member? key with
  | none => exact Tended.refl w
  | some m =>
    have put := tended_settleSession there (kept_cycleStep now epoch m.session step) []
    exact put.trans (tended_performCycles m _ _)

/-- A bring-up leaves the sessions alone until its endpoint is tracked. -/
theorem members_resume (p : Pass) (e : EndpointConfig) (w : World) {phase : Phase}
    (early : ∀ r, phase ≠ .admitted r) : (w.resume p e phase).1.members = w.members :=
  resume_congr (f := members) (fun _ _ => rfl) (fun _ _ => rfl) p e w early

/-- An endpoint that is admitted is added to its session. -/
theorem members_admitted (p : Pass) (e : EndpointConfig) (r : Resolved) (w : World) :
    (w.resume p e (.admitted r)).1.members = (w.addEndpoint p.session r.pinned).1.members := by
  simp only [resume]
  split <;> exact endBringUp_congr (f := members) (fun _ _ => rfl) p e _ _

theorem member?_addEndpoint (key : SessionKey) (e : EndpointConfig) (w : World)
    (other : SessionKey) :
    (w.addEndpoint key e).1.member? other =
      (w.member? other).map fun m =>
        if other = key then
          { m with session := (m.session.add
            (fun e => Handler.create (w.bind m.client m.session.service e) m.session.service e)
            w.now e).1 }
        else m := by
  unfold addEndpoint
  cases there : w.member? key with
  | none =>
    cases found : w.member? other with
    | none => simp
    | some x =>
      have hne : other ≠ key := by
        rintro rfl
        rw [there] at found
        cases found
      simp [hne]
  | some m =>
    rw [member?_settleSession]
    cases found : w.member? other with
    | none => rfl
    | some x =>
      by_cases same : other = key
      · subst same
        rw [there] at found
        cases found
        simp
      · simp [same]

end World

namespace Scene

variable {x : Scene}

/-- What a move makes of the sessions: it adds no endpoint to any of them, or it holds a new one, or
it adds an endpoint, which is tracked by hand or was admitted. -/
theorem sessions_take (x : Scene) (mv : Move) :
    Tended x.world (x.take mv).world ∨
      (∃ m, x.world.member? m.key = none ∧ m.session = { service := m.session.service } ∧
        (x.take mv).world = x.world.addMember m) ∨
      ∃ key e, (x.take mv).world.members = (x.world.addEndpoint key e).1.members ∧
        (mv = .track key e ∨ ∃ n t r, mv = .resume n ∧ x.errands[n]? = some t ∧
          t.phase = .admitted r ∧ key = t.pass.session ∧ e = r.pinned) := by
  cases mv with
  | launch key service client counted stopOn =>
    simp only [take]
    split
    · exact .inl (Tended.refl _)
    · next free =>
      refine .inr (.inl ⟨{ key, session := { service }, client, counted, stopOn }, ?_, rfl, rfl⟩)
      simpa using free
  | activate key | initialise key e =>
    simp only [take]
    split <;> exact .inl (Tended.refl _)
  | begin n =>
    simp only [take]
    split
    · next p there =>
      left
      unfold begin
      cases p.wholeService with
      | true => exact World.tended_startSession p.session x.world
      | false => exact Tended.refl _
    · exact .inl (Tended.refl _)
  | resume n =>
    simp only [take]
    split
    · next t there =>
      cases hphase : t.phase with
      | admitted r =>
        exact .inr (.inr ⟨_, _, World.members_admitted t.pass t.endpoint r _,
          .inr ⟨n, t, r, rfl, there, hphase, rfl, rfl⟩⟩)
      | pending | asked | resolved | creating | created | ended =>
        exact .inl (.of_members (World.members_resume t.pass t.endpoint _ (by simp)))
    · exact .inl (Tended.refl _)
  | start key => exact .inl (World.tended_startSession key x.world)
  | stop key => exact .inl (World.tended_stopSession key x.world)
  | track key e => exact .inr (.inr ⟨key, e, rfl, .inl rfl⟩)
  | cycle key epoch step => exact .inl (World.tended_moveCycle key x.world.now epoch step x.world)
  | register client r => cases client <;> exact .inl (.of_members rfl)
  | script endpoints | outcomes broker | clock now => exact .inl (.of_members rfl)

end Scene
end TopicRelay.Simulation
