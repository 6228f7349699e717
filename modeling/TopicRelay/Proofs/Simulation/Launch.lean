/-
The start of a service. Until a service is started nothing concerns its endpoints, and commands make no
difference but that they change how the endpoints will answer; once it is started, the world shows a solo
of each endpoint.
-/
import TopicRelay.Proofs.Simulation.Lockstep

namespace TopicRelay.Simulation

open TopicRelay.Broker TopicRelay.Config TopicRelay.Content TopicRelay.Control
open TopicRelay.Polling TopicRelay.Publication TopicRelay.Time

variable {s : ServiceConfig} {e : EndpointConfig} {w w₁ : World} {v v' : Solo} {auto : Bool}

/-! ## Commands -/

/-- Whether a command is part of running a service and its endpoints, apart from starting it. -/
def Command.runs (s : ServiceConfig) : Command → Bool
  | .advance _ | .script .. | .topicOutcome .. | .closeServices => true
  | .source service a => service == s.name && (a == .activate || a == .standby)
  | _ => false

theorem heed_script (endpoint : String) (once : List Answer) (repeated : Option Answer)
    (delay : Option Nat) (play : (w.endpoints.script e.name).play = (v.queued, v.repeated, v.delay)) :
    ∃ queued again slow, v.heed e (.script endpoint once repeated delay) =
        { v with queued, repeated := again, delay := slow } ∧
      ((w.command (.script endpoint once repeated delay)).1.endpoints.script e.name).play =
        (queued, again, slow) := by
  have script : (w.command (.script endpoint once repeated delay)).1.endpoints.script e.name = _ :=
    script_update _ endpoint e.name w.endpoints
  rw [script]
  by_cases own : endpoint = e.name
  · refine ⟨v.queued ++ once, repeated.or v.repeated, delay.getD v.delay, if_pos own, ?_⟩
    rw [if_pos own.symm, own]
    simp only [Script.play, Prod.mk.injEq] at play ⊢
    rw [play.1, play.2.1, play.2.2]
    exact ⟨rfl, rfl, rfl⟩
  · refine ⟨v.queued, v.repeated, v.delay, if_neg own, ?_⟩
    rw [if_neg (Ne.symm own)]
    exact play

theorem heed_topicOutcome (endpoint : String) (outcome : Except TopicCreationError TopicCreation)
    (same : w.broker.outcome e.name = v.outcome) :
    ∃ ends, v.heed e (.topicOutcome endpoint outcome) = { v with outcome := ends } ∧
      (w.command (.topicOutcome endpoint outcome)).1.broker.outcome e.name = ends := by
  by_cases own : endpoint = e.name
  · exact ⟨outcome, if_pos own, by simp [World.command, StandInBroker.outcome, own]⟩
  · refine ⟨v.outcome, if_neg own, ?_⟩
    rw [← same]
    simp [World.command, StandInBroker.outcome, List.lookup_cons, beq_false_of_ne (Ne.symm own)]

/-! ## Before the service is started -/

/-- A world in which the service is yet to be started. -/
structure Idle (s : ServiceConfig) (e : EndpointConfig) (auto : Bool) (w : World) (v : Solo) :
    Prop where
  policy : w.autoActivate = auto
  members : w.members = []
  agenda : w.agenda = {}
  sources : w.standIn = .empty
  manager : w.managerOrNew = { owner := .manager }
  script : (w.endpoints.script e.name).play = (v.queued, v.repeated, v.delay)
  outcome : w.broker.outcome e.name = v.outcome
  told : w.history.concerning s e = v.told
  clock : v.now = w.now
  life : v.life = .idle
  fresh : v.active = false ∧ v.feed = none ∧ v.ready = [] ∧ v.waiting = []

theorem Idle.calm (h : Idle s e auto w v) : w.letGo.settle = w := by
  have kept : w.letGo = w := by
    have none : w.members.partition (fun m =>
        w.heldSessions.contains m.key || World.hasRequest m) = (w.members, []) := by
      rw [h.members]
      rfl
    unfold World.letGo
    simp only [none, List.foldl_nil]
  rw [kept]
  exact runRounds_of_idle (by rw [h.agenda]) _

theorem Idle.obeyed {c : Command} (after : Idle s e auto (w.command c).1 v) :
    Idle s e auto (w.obey c true).1 v := by
  show Idle s e auto (w.command c).1.letGo.settle v
  rw [after.calm]
  exact after

theorem Idle.hears (h : Idle s e auto w v) {c : Command} (runs : c.runs s = true) :
    ∃ v', Solo.Hears s e v c v' ∧ Idle s e auto (w.obey c true).1 v' := by
  have unborn : v.life ≠ .live := by
    rw [h.life]
    exact Life.noConfusion
  suffices ∃ v', Solo.Hears s e v c v' ∧ Idle s e auto (w.command c).1 v' by
    obtain ⟨v', hears, after⟩ := this
    exact ⟨v', hears, after.obeyed⟩
  cases c with
  | advance ms =>
    have settled : w.settle = w := runRounds_of_idle (by rw [h.agenda]) _
    have still : w.runTimers (fun due => decide (due ≤ w.now + ms)) (ms + 1) = w := by
      unfold World.runTimers
      rw [h.agenda]
      rfl
    have world : (w.command (.advance ms)).1 = { w with now := w.now + ms } := by
      show w.advance ms = _
      unfold World.advance
      simp only [settled, still]
    refine ⟨{ v with now := v.now + ms }, by simp [Solo.Hears, unborn], ?_⟩
    rw [world]
    exact { h with clock := by rw [h.clock] }
  | script endpoint once repeated delay =>
    obtain ⟨queued, again, slow, heed, play⟩ := heed_script endpoint once repeated delay h.script
    exact ⟨_, rfl, heed ▸ { h with script := play }⟩
  | topicOutcome endpoint outcome =>
    obtain ⟨ends, heed, same⟩ := heed_topicOutcome endpoint outcome h.outcome
    exact ⟨_, rfl, heed ▸ { h with outcome := same }⟩
  | source service a =>
    have world : (w.command (.source service a)).1 = w := by
      show (w.actOnService service a).1 = w
      unfold World.actOnService
      rw [h.sources]
      rfl
    rw [world]
    refine ⟨v, ?_, h⟩
    cases a with
    | activate => simp [Solo.Hears, unborn]
    | register | standby | close => simp [Solo.Hears, Solo.heed, unborn]
  | closeServices =>
    have closed : (w.command .closeServices).1 = { w with manager := some { owner := .manager } } := by
      show (w.changeManager w.managerOrNew.close.1 w.managerOrNew.close.2) = _
      rw [h.manager]
      rfl
    rw [closed]
    refine ⟨v, ?_, { h with manager := rfl }⟩
    simp [Solo.Hears, Solo.heed, unborn]
  | _ => cases runs

/-! ## The service is started -/

/-- A pass over the service begins. -/
theorem Shows.spawnPass {own : Option Nat} {ses : Polling.Session Handler} (hosts : Hosts s e)
    (h : Shows s e own ses w v) (clock : v.now = w.now) :
    Shows s e own ses { w with agenda := w.agenda.spawn (.pass (.ofService s soloKey .standIn)) }
      { v with ready := v.ready ++ [.begin] } := by
  obtain ⟨blocks, lane⟩ := h.lane
  have wants : soloWants e own v.feed (.pass (.ofService s soloKey .standIn)) = some (0, .begin) := by
    have found : s.endpoints.find? (fun x => x.name == e.name) = some e :=
      find?_of_nodup_map hosts.names hosts.there
    simp only [soloWants, partOf, Pass.ofService, List.find?_map, Function.comp_def, found]
    rfl
  have spawned := lane.spawn (.pass (.ofService s soloKey .standIn)) (by rw [wants]; simp)
  rw [wants] at spawned
  have split : ∀ t ∈ (w.agenda.spawn (.pass (.ofService s soloKey .standIn))).tasks,
      t ∈ w.agenda.tasks ∨
        t = { id := w.agenda.nextId, work := .pass (.ofService s soloKey .standIn) } := by
    intro t ht
    simpa [Agenda.spawn] using ht
  refine { h with
    clock := fun _ => clock, unaborted := ?_, employed := ?_, epochs := ?_, lane := ⟨blocks, spawned⟩ }
  · intro t ht
    rcases split t ht with ht | rfl
    · exact h.unaborted t ht
    · rfl
  · intro t ht
    rcases split t ht with ht | rfl
    · exact h.employed t ht
    · refine ⟨rfl, rfl, rfl, rfl, ?_, (by intro begun; cases begun), fun part hpart => ?_⟩
      · simp [Pass.ofService, Function.comp_def]
      · obtain ⟨x, -, rfl⟩ := List.mem_map.1 hpart
        exact ⟨fun _ => rfl, fun _ => rfl⟩
  · intro t ht x hx key key' n hwork hwork'
    rcases split t ht with ht | rfl <;> rcases split x hx with hx | rfl
    · exact h.epochs t ht x hx key key' n hwork hwork'
    · cases hwork'
    · cases hwork
    · rfl

/-- What becomes of a solo when the service is started. -/
def Solo.Starts (s : ServiceConfig) (e : EndpointConfig) (auto : Bool) (v v' : Solo) : Prop :=
  if checkPollPeriod s then
    Solo.Settles s e
      { v with life := .live, active := auto, ready := if auto then [.begin] else [] } v'
  else v' = v

/-- The source of the service before anything hangs on it. -/
def freshSources (s : ServiceConfig) (active : Bool) : Registry Hook :=
  { handed := [{ topicPath := s.topicPathRoot, state := if active then .active else .standby }]
    kept := [(s.name, 0)] }

theorem alike_moved (path : String) (x : Transition) (w : World) :
    Alike s e w (w.say (x.entry path)) :=
  alike_say (by simp [Transition.entry]) w

/-- Sources that move, without anything that hangs on them, leave a world alike. -/
theorem alike_moves : ∀ {ns : List (Notice Hook)} (_ : ∀ n ∈ ns, ∃ path t, n = .moved path t)
    (w : World), Alike s e w (w.heed ns)
  | [], _, w => Alike.refl s e w
  | n :: rest, moves, w => by
    obtain ⟨path, t, rfl⟩ := moves n (List.mem_cons_self ..)
    exact (alike_moved path t w).trans (alike_moves (fun n hn => moves n (List.mem_cons_of_mem _ hn)) _)

/-- The source of the service is added. -/
theorem alike_addSource (sources : w.standIn = .empty) (policy : w.autoActivate = auto) :
    Alike s e { w with standIn := freshSources s auto } (w.addSource .standIn s).1 ∧
      (w.addSource .standIn s).2 = 0 := by
  have added : (w.registry .standIn).add (w.policy .standIn) s = (freshSources s auto, 0,
      .moved s.topicPathRoot ⟨.unregistered, .standby⟩ ::
        if auto then [.moved s.topicPathRoot ⟨.standby, .active⟩] else []) := by
    show w.standIn.add { closesReplaced := false, activates := w.autoActivate } s = _
    rw [sources, policy]
    cases auto <;> rfl
  unfold World.addSource
  rw [added]
  refine ⟨alike_moves (fun n hn => ?_) _, rfl⟩
  cases auto <;> simp at hn <;> aesop

theorem alike_notify (occasion : Occasion) (event : String) (other : event ≠ "poll_publish_ok")
    (w : World) :
    Alike s e w ((w.say (World.starterEntry event s [])).notify (soloHook s occasion)) :=
  (alike_say (by simpa [World.starterEntry] using other) w).trans (alike_record rfl _)

/-- The agenda once the source of the service is active, or is not. -/
def soloAgenda (s : ServiceConfig) (active : Bool) (a : Time.Agenda Work) : Time.Agenda Work :=
  if active then a.spawn (.pass (.ofService s soloKey .standIn)) else a

/-- What hangs on the source of the service takes place as the source becomes active. -/
theorem alike_active (w : World) :
    Alike s e { w with agenda := soloAgenda s true w.agenda } (w.runHook (soloHook s .active)) := by
  have told : Alike s e w _ := alike_notify .active "service_active" (by simp) w
  exact told.withAgenda (soloAgenda s true w.agenda)

/-- The hooks of the service are attached to its source, and one of them runs at once. -/
theorem alike_attach (sources : w.standIn = freshSources s auto) :
    Alike s e { w with standIn := soloSources s auto, agenda := soloAgenda s auto w.agenda }
      (w.attach .standIn 0 (hooksOf (soloRunning s))) := by
  have attached : (w.registry .standIn).attachAll 0 (hooksOf (soloRunning s)) =
      (soloSources s auto, [.ran (soloHook s (if auto then .active else .standby))]) := by
    show w.standIn.attachAll 0 (hooksOf (soloRunning s)) = _
    rw [sources]
    cases auto <;> rfl
  unfold World.attach
  rw [attached]
  cases auto with
  | true => exact alike_active { w with standIn := soloSources s true }
  | false => exact alike_notify .standby _ (by simp) { w with standIn := soloSources s false }

/-- The launch of the service, as far as it matters. -/
theorem alike_launch (sources : w.standIn = .empty) (members : w.members = [])
    (policy : w.autoActivate = auto) :
    Alike s e
      { w with
        members := [soloMember { service := s }]
        standIn := soloSources s auto
        agenda := soloAgenda s auto w.agenda }
      (w.performChore (.launch (soloRunning s))) := by
  -- each step leaves alone what the next one needs, up to what makes no difference
  have held : w.addMember (soloMember { service := s }) =
      { w with members := [soloMember { service := s }] } := by
    unfold World.addMember
    rw [members]
    rfl
  have announced : Alike s e { w with members := [soloMember { service := s }] }
      (World.announce .standIn s (w.addMember (soloMember { service := s }))) := by
    rw [held]
    exact alike_record rfl _
  obtain ⟨added, number⟩ := alike_addSource (s := s) (e := e)
    (w := World.announce .standIn s (w.addMember (soloMember { service := s })))
    sources policy
  have attached := alike_attach (s := s) (e := e) added.standIn
  rw [added.agenda.trans announced.agenda] at attached
  have chores : w.performChore (.launch (soloRunning s)) =
      World.attach .standIn
        (World.addSource .standIn s
          (World.announce .standIn s (w.addMember (soloMember { service := s })))).2
        (hooksOf (soloRunning s))
        (World.addSource .standIn s
          (World.announce .standIn s (w.addMember (soloMember { service := s })))).1 :=
    rfl
  rw [chores, number]
  exact (((announced.withSources _).trans (added.withSources _)).withAgenda _).trans attached

/-- The entry that begins the start of the service. -/
def startEntry : Log.Entry :=
  Services.entry .info "services_reconfigure_start" [("previous", .count 0), ("next", .count 1)]

/-- The services of the manager: the service alone. -/
def soloManager (s : ServiceConfig) : Services :=
  { owner := .manager, running := [soloRunning s], nextNumber := 1 }

theorem reconfigure_only {m : Model} (only : m.services = [s]) (period : checkPollPeriod s = true) :
    Services.reconfigure World.managerContext { owner := .manager } m =
      (soloManager s, [],
        [.log startEntry, .launch (soloRunning s), .log (Services.reconfigured 1 0)]) := by
  simp only [Services.reconfigure, Services.close, only, Services.launchAll, period, if_true]
  rfl

theorem reconfigure_refused {m : Model} (only : m.services = [s]) (period : checkPollPeriod s = false) :
    ∃ failures, ∃ failed : Log.Entry, failed.event ≠ "poll_publish_ok" ∧
      Services.reconfigure World.managerContext { owner := .manager } m =
        ({ owner := .manager }, failures,
          [.log startEntry, .log failed, .log (Services.reconfigured 0 1)]) := by
  simp only [Services.reconfigure, Services.close, only, Services.launchAll, period,
    Bool.false_eq_true, if_false]
  exact ⟨_, _, by simp [Services.entry], rfl⟩

theorem alike_startEntry (w : World) : Alike s e w (w.say startEntry) :=
  alike_say (by simp [startEntry, Services.entry]) w

theorem alike_reconfigured (running failed : Nat) (w : World) :
    Alike s e w (w.say (Services.reconfigured running failed)) := by
  refine alike_say ?_ w
  unfold Services.reconfigured
  split <;> simp [Services.entry]

theorem performServices_log (entry : Log.Entry) (w : World) :
    w.performServices (.log entry) = w.say entry :=
  rfl

theorem performServices_launch (r : Running) (w : World) :
    w.performServices (.launch r) = w.performChore (.launch r) :=
  rfl

/-- A service is started that has no period: nothing comes of it but entries. -/
theorem Idle.fails (h : Idle s e auto w v) {m : Model} (only : m.services = [s])
    (period : checkPollPeriod s = false) : Idle s e auto (w.command (.reconfigureServices m)).1 v := by
  obtain ⟨failures, failed, other, refused⟩ := reconfigure_refused only period
  have world : (w.command (.reconfigureServices m)).1 =
      ((({ w with manager := some { owner := .manager } } : World).say startEntry).say failed).say
        (Services.reconfigured 0 1) := by
    show w.changeManager (w.managerOrNew.reconfigure _ m).1 (w.managerOrNew.reconfigure _ m).2.2 = _
    rw [h.manager, refused]
    rfl
  have alike : Alike s e { w with manager := some { owner := .manager } } _ :=
    ((alike_startEntry _).trans (alike_say other _)).trans (alike_reconfigured 0 1 _)
  rw [world]
  exact { h with manager := rfl, told := alike.told.trans h.told }

/-- The service is started. -/
theorem Idle.launches (h : Idle s e auto w v) {m : Model} (only : m.services = [s])
    (period : checkPollPeriod s = true) :
    Alike s e
      { w with
        manager := some (soloManager s)
        members := [soloMember { service := s }]
        standIn := soloSources s auto
        agenda := soloAgenda s auto w.agenda }
      (w.command (.reconfigureServices m)).1 := by
  have world : (w.command (.reconfigureServices m)).1 =
      ((({ w with manager := some (soloManager s) } : World).say startEntry).performChore
        (.launch (soloRunning s))).say (Services.reconfigured 1 0) := by
    show w.changeManager (w.managerOrNew.reconfigure _ m).1 (w.managerOrNew.reconfigure _ m).2.2 = _
    rw [h.manager, reconfigure_only only period]
    simp only [World.changeManager, List.foldl_cons, List.foldl_nil, performServices_log,
      performServices_launch]
  have begun : Alike s e { w with manager := some (soloManager s) } _ := alike_startEntry _
  have launched : Alike s e _ _ :=
    alike_launch (w := ({ w with manager := some (soloManager s) } : World).say startEntry)
      h.sources h.members h.policy
  rw [world]
  exact ((((begun.withMembers _).withSources _).withAgenda _).trans launched).trans
    (alike_reconfigured 1 0 _)

theorem checkPollPeriod_iff (s : ServiceConfig) :
    checkPollPeriod s = true ↔ 0 < s.pollPeriodMs.toNat := by
  simp [checkPollPeriod, ← UInt64.toNat_inj, Nat.pos_iff_ne_zero]

/-- The world shows the solo once the service is started. -/
theorem Idle.shows (h : Idle s e auto w v) {m : Model} (only : m.services = [s]) (hosts : Hosts s e) :
    Shows s e none { service := s } (w.command (.reconfigureServices m)).1
      { v with life := .live, active := auto, ready := if auto then [.begin] else [] } := by
  have period : checkPollPeriod s = true := (checkPollPeriod_iff s).2 hosts.period
  have begun : Shows s e none { service := s }
      { w with
        manager := some (soloManager s)
        members := [soloMember { service := s }]
        standIn := soloSources s auto }
      { v with life := .live, active := auto } := by
    obtain ⟨-, feed, ready, waiting⟩ := h.fresh
    have none : ∀ t, t ∉ w.agenda.tasks := by
      rw [h.agenda]
      exact fun t => List.not_mem_nil
    exact {
      members := rfl
      managed := rfl
      sources := rfl
      script := h.script
      outcome := h.outcome
      clock := fun _ => h.clock
      told := h.told
      service := rfl
      live := rfl
      orderly := Polling.Session.fresh_orderly s
      dormant := fun _ => rfl
      labels := List.forall_mem_nil _
      tracks := by
        show Tracks e _ _ v.feed
        rw [feed]
        exact ⟨rfl, rfl⟩
      unaborted := fun t ht => absurd ht (none t)
      employed := fun t ht => absurd ht (none t)
      epochs := fun t ht => absurd ht (none t)
      lane := by
        refine ⟨[], ?_⟩
        show w.agenda.Lane _ _ _ _ v.ready v.waiting
        rw [h.agenda, ready, waiting]
        exact Agenda.Lane.empty _ _ _ }
  refine Shows.alike ?_ (h.launches only period)
  cases auto with
  | false => exact h.fresh.2.2.1 ▸ begun
  | true =>
    have spawned := begun.spawnPass hosts h.clock
    simp only [h.fresh.2.2.1, List.nil_append] at spawned
    exact spawned

end TopicRelay.Simulation
