/-
Sibling endpoints do not interfere. A service is started, time passes, its source becomes active and
goes to standby, and it is stopped; meanwhile its endpoints are told how to answer, how long to take,
and how the creation of their topics ends. Whatever this is for the other endpoints, and whatever the
other endpoints are, what happens of one endpoint is the same, at the same times.

The world mirrors a solo through each command, whether the service is yet to be started, runs, or has
been stopped; and commands for other endpoints make no difference to the solo.
-/
import TopicRelay.Proofs.Simulation.Aftermath
import TopicRelay.Proofs.Simulation.Launch

namespace TopicRelay.Simulation

open TopicRelay.Broker TopicRelay.Config TopicRelay.Content TopicRelay.Control
open TopicRelay.Polling TopicRelay.Publication TopicRelay.Time

variable {s : ServiceConfig} {e : EndpointConfig} {own : Option Nat}
  {ses : Polling.Session Handler} {w w₁ : World} {v v₁ : Solo} {auto : Bool}

/-! ## While the service runs -/

/-- A world in which the service runs, at rest. -/
structure Live (s : ServiceConfig) (e : EndpointConfig) (w : World) (v : Solo) : Prop where
  hosts : Hosts s e
  rests : Rests s e w v
  life : v.life = .live
  clock : v.now = w.now

theorem Shows.becomesLive (hosts : Hosts s e) (h : Shows s e own ses w v)
    (current : w.agenda.current = none) (life : v.life = .live) (clock : v.now = w.now) :
    ∃ v', Solo.Settles s e v v' ∧ Live s e w.letGo.settle v' := by
  obtain ⟨v', rests, settles, now⟩ := h.settle hosts current
  rw [h.letGo]
  exact ⟨v', settles, hosts, rests, settles.clock.2.trans life,
    settles.clock.1.trans (clock.trans now.symm)⟩

theorem Live.calm (h : Live s e w v) : w.letGo.settle = w := by
  obtain ⟨own, ses, shows⟩ := h.rests.shows
  rw [shows.letGo]
  exact runRounds_of_idle h.rests.queue _

/-- Nothing is left to run after a command that leaves the service at rest. -/
theorem Live.obeyed {c : Command} (after : Live s e (w.command c).1 v) :
    Live s e (w.obey c true).1 v := by
  show Live s e (w.command c).1.letGo.settle v
  rw [after.calm]
  exact after

theorem number?_soloSources (s : ServiceConfig) (active : Bool) :
    (soloSources s active).number? s.name = some 0 := by
  simp [soloSources, Registry.number?]

/-- The source of the service is to become active. -/
theorem alike_activate {active : Bool} (sources : w.standIn = soloSources s active) :
    Alike s e { w with standIn := soloSources s true, agenda := soloAgenda s (!active) w.agenda }
      (w.actOnService s.name .activate).1 := by
  have called : (w.registry .standIn).call 0 (.act .activate) =
      (soloSources s true, if active then [] else
        [.moved s.topicPathRoot ⟨.standby, .active⟩, .ran (soloHook s .active)], none) := by
    show w.standIn.call 0 (.act .activate) = _
    rw [sources]
    cases active <;> rfl
  unfold World.actOnService World.actOn
  rw [sources, number?_soloSources]
  dsimp only
  rw [called]
  cases active with
  | true => exact Alike.refl ..
  | false =>
    have moved : Alike s e { w with standIn := soloSources s true } _ :=
      alike_moved s.topicPathRoot ⟨.standby, .active⟩ _
    exact (moved.withAgenda (soloAgenda s true w.agenda)).trans (alike_active _)

/-- The source of the service is to go to standby. -/
theorem alike_standby {active : Bool} (sources : w.standIn = soloSources s active) :
    Alike s e { w with standIn := soloSources s false } (w.actOnService s.name .standby).1 := by
  have called : (w.registry .standIn).call 0 (.act .standby) =
      (soloSources s false, if active then
        [.moved s.topicPathRoot ⟨.active, .standby⟩, .ran (soloHook s .standby)] else [], none) := by
    show w.standIn.call 0 (.act .standby) = _
    rw [sources]
    cases active <;> rfl
  unfold World.actOnService World.actOn
  rw [sources, number?_soloSources]
  dsimp only
  rw [called]
  cases active with
  | false => exact Alike.refl ..
  | true =>
    have moved : Alike s e { w with standIn := soloSources s false } _ :=
      alike_moved s.topicPathRoot ⟨.active, .standby⟩ _
    exact moved.trans (alike_notify .standby _ (by simp) _)

theorem Live.alike (h : Live s e w v) (alike : Alike s e w w₁) : Live s e w₁ v := by
  obtain ⟨own, ses, shows⟩ := h.rests.shows
  exact {
    hosts := h.hosts
    rests := ⟨⟨own, ses, shows.alike alike⟩, alike.agenda ▸ h.rests.queue, alike.agenda ▸ h.rests.current⟩
    life := h.life
    clock := h.clock.trans alike.now.symm }

/-- The source of the service becomes active: a pass over the service begins, unless the source has been
active before. -/
theorem Live.activate (h : Live s e w v) :
    ∃ v', Solo.Hears s e v (.source s.name .activate) v' ∧
      Live s e (w.obey (.source s.name .activate) true).1 v' := by
  obtain ⟨own, ses, shows⟩ := h.rests.shows
  have acted := alike_activate (e := e) shows.sources
  cases active : v.active with
  | true =>
    rw [active] at acted
    have before : Live s e { w with standIn := soloSources s true } v :=
      { h with
        rests := ⟨⟨own, ses, { shows with sources := by rw [active] }⟩, h.rests.queue,
          h.rests.current⟩ }
    exact ⟨v, by simp [Solo.Hears, active], Live.obeyed (before.alike acted)⟩
  | false =>
    rw [active] at acted
    have begun : Shows s e own ses { w with standIn := soloSources s true } { v with active := true } :=
      { shows with sources := rfl }
    have spawned := (begun.spawnPass h.hosts h.clock).alike acted
    obtain ⟨v', settles, after⟩ := spawned.becomesLive h.hosts
      ((congrArg Agenda.current acted.agenda).trans h.rests.current) h.life
      (h.clock.trans acted.now.symm)
    refine ⟨v', ?_, after⟩
    simp only [Solo.Hears, if_pos (And.intro h.life active)]
    simpa [h.rests.ready] using settles

/-- The source of the service goes to standby. -/
theorem Live.standby (h : Live s e w v) :
    ∃ v', Solo.Hears s e v (.source s.name .standby) v' ∧
      Live s e (w.obey (.source s.name .standby) true).1 v' := by
  obtain ⟨own, ses, shows⟩ := h.rests.shows
  have before : Live s e { w with standIn := soloSources s false } { v with active := false } :=
    { h with
      rests := ⟨⟨own, ses, { shows with sources := rfl }⟩, h.rests.queue, h.rests.current⟩ }
  exact ⟨{ v with active := false }, by simp [Solo.Hears, Solo.heed, h.life],
    Live.obeyed (before.alike (alike_standby shows.sources))⟩

/-- The sources make no difference to the session. -/
theorem performSession_standIn (key : SessionKey) (r : Registry Hook) :
    ∀ (effects : List SessionEffect) (w : World),
      { effects.foldl (World.performSession key) w with standIn := r } =
        effects.foldl (World.performSession key) { w with standIn := r }
  | [], _ => rfl
  | x :: rest, w => by
    have first : { w.performSession key x with standIn := r } =
        World.performSession key { w with standIn := r } x := by
      cases x <;> rfl
    rw [List.foldl_cons, List.foldl_cons, ← first]
    exact performSession_standIn key r rest _

/-- The sources of the stand-in broker once that of the service has been removed. -/
def closedSources (s : ServiceConfig) : Registry Hook :=
  { handed := [
      { topicPath := s.topicPathRoot, state := .closed, onStandby := [soloHook s .standby]
        onActive := [soloHook s .active], onClose := [soloHook s .closed] }] }

/-- The source of the service is removed and closed. -/
theorem alike_removeService {active : Bool} (sources : w.standIn = soloSources s active) :
    Alike s e { w with standIn := closedSources s } (World.removeService .standIn s w).1 := by
  have forgotten : (soloSources s active).kept.filter (fun p => p.1 != s.name) = [] := by
    simp [soloSources]
  obtain ⟨state, removed⟩ : ∃ state, w.standIn.remove s.name =
      (closedSources s, [.moved s.topicPathRoot ⟨state, .closed⟩, .ran (soloHook s .closed)], .ok ()) := by
    refine ⟨if active then .active else .standby, ?_⟩
    rw [sources, Registry.remove, number?_soloSources]
    simp only [forgotten]
    cases active <;> rfl
  have world : (World.removeService .standIn s w).1 =
      (({ w.record (.removalAsked s.name) with standIn := closedSources s } : World).say
        (Transition.entry s.topicPathRoot ⟨state, .closed⟩)).runHook (soloHook s .closed) := by
    unfold World.removeService
    dsimp only
    rw [show (w.record (.removalAsked s.name)).registry .standIn = w.standIn from rfl, removed]
    rfl
  have asked : Alike s e w (w.record (.removalAsked s.name)) := alike_record rfl w
  have moved : Alike s e { w.record (.removalAsked s.name) with standIn := closedSources s } _ :=
    alike_moved s.topicPathRoot ⟨state, .closed⟩ _
  rw [world]
  exact ((asked.withSources _).trans moved).trans (alike_notify .closed _ (by simp) _)

theorem stopSession_eq (members : w.members = [soloMember ses]) :
    w.stopSession soloKey =
      ses.stop.2.foldl (World.performSession soloKey)
        { w with members := [soloMember ses.stop.1] } := by
  have there : w.member? soloKey = some (soloMember ses) := by
    unfold World.member?
    rw [members]
    rfl
  unfold World.stopSession World.settleSession
  rw [there]
  show ses.stop.2.foldl (World.performSession soloKey) (w.setSession soloKey ses.stop.1) = _
  unfold World.setSession World.mapMember
  rw [members]
  rfl

/-- The session of the service is stopped, and then its source is removed. -/
theorem closeServices_eq {manager : Services} (managed : w.manager = some manager)
    (running : manager.running = [soloRunning s]) {w' : World}
    (stopped : World.stopSession soloKey { w with manager := some { manager with running := [] } } = w') :
    (w.command .closeServices).1 =
      (World.removeService .standIn s w').1.say
        (Services.removedEntry (soloRunning s) (World.removeService .standIn s w').2) := by
  have managing : w.managerOrNew = manager := by
    unfold World.managerOrNew
    rw [managed]
    rfl
  show w.changeManager w.managerOrNew.close.1 w.managerOrNew.close.2 = _
  rw [managing, ← stopped]
  unfold Services.close
  rw [running]
  rfl

theorem alike_removed (r : Running) (result : Except PublishingError Unit) (w : World) :
    Alike s e w (w.say (Services.removedEntry r result)) := by
  refine alike_say ?_ w
  unfold Services.removedEntry
  split <;> simp [Services.entry]

theorem Shows.isLeft (h : Shows s e own ses w v) : ∀ t ∈ w.agenda.tasks, t.work.isLeft = true := by
  intro t ht
  have employed := h.employed t ht
  cases hwork : t.work with
  | pass | cycle => rfl
  | metrics | opening | notification =>
    rw [hwork] at employed
    cases employed

/-- The service is stopped. -/
theorem Live.closes (h : Live s e w v) : Hushed s e v.told (w.command .closeServices).1 := by
  obtain ⟨own, ses, shows⟩ := h.rests.shows
  obtain ⟨manager, managed, running⟩ := Option.map_eq_some_iff.1 shows.managed
  have members : ({ w with manager := some { manager with running := [] } } : World).members =
      [soloMember ses] := shows.members
  -- the session is stopped while the source is still there, so that its silence is proved on the sources
  -- that are left, which make no difference to it
  generalize stopped :
    World.stopSession soloKey { w with manager := some { manager with running := [] } } = w'
  have world := closeServices_eq managed running stopped
  rw [stopSession_eq members] at stopped
  have sources : w'.standIn = soloSources s v.active := by
    have kept (x : World) : (ses.stop.2.foldl (World.performSession soloKey) x).standIn = x.standIn :=
      (congrArg World.standIn (performSession_standIn soloKey x.standIn ses.stop.2 x)).symm
    rw [← stopped, kept]
    exact shows.sources
  rw [world]
  refine Hushed.alike (Hushed.alike ?_ (alike_removeService sources)) (alike_removed _ _ _)
  rw [← stopped, performSession_standIn]
  refine Hushed.stopped ?_ soloKey ses
  exact {
    told := shows.told
    silent := by
      intro m hm
      obtain rfl := List.mem_singleton.1 hm
      exact ⟨ses.silent_stop, rfl⟩
    left := shows.isLeft
    kept := rfl
    unmanaged := rfl }

/-! ## Commands to a service -/

/-- A world mirrors a solo, whether the service is yet to be started, runs, or has been stopped. -/
inductive Mirrors (s : ServiceConfig) (e : EndpointConfig) (auto : Bool) (w : World) (v : Solo) : Prop
  | idle (h : Idle s e auto w v)
  | live (h : Live s e w v)
  | ended (h : Hushed s e v.told w) (life : v.life = .ended)

theorem Mirrors.told (h : Mirrors s e auto w v) : w.history.concerning s e = v.told := by
  cases h with
  | idle h => exact h.told
  | live h =>
    obtain ⟨own, ses, shows⟩ := h.rests.shows
    exact shows.told
  | ended h => exact h.told

/-- A command to a service that runs. -/
theorem Live.hears (h : Live s e w v) {c : Command} (runs : c.runs s = true) :
    ∃ v', Solo.Hears s e v c v' ∧ Mirrors s e auto (w.obey c true).1 v' := by
  obtain ⟨own, ses, shows⟩ := h.rests.shows
  cases c with
  | advance ms =>
    obtain ⟨v', elapses, rests⟩ := h.rests.advance h.hosts ms
    have after : Live s e (w.advance ms) { v' with now := w.now + ms } :=
      ⟨h.hosts, rests, elapses.life.trans h.life, rfl⟩
    refine ⟨{ v' with now := w.now + ms }, ?_, .live (Live.obeyed after)⟩
    simp only [Solo.Hears, h.clock]
    split
    · exact ⟨v', elapses, rfl⟩
    · next rests =>
      -- if no time passes, nothing is due
      obtain rfl : ms = 0 := by simpa [h.life] using rests
      rw [elapses.unique (.done (h.rests.waits h.rests.late))]
  | script endpoint once repeated delay =>
    obtain ⟨queued, again, slow, heed, play⟩ := heed_script endpoint once repeated delay shows.script
    have after : Live s e (w.command (.script endpoint once repeated delay)).1
        { v with queued, repeated := again, delay := slow } :=
      { h with rests := ⟨⟨own, ses, { shows with script := play }⟩, h.rests.queue, h.rests.current⟩ }
    exact ⟨_, rfl, .live (Live.obeyed (heed ▸ after))⟩
  | topicOutcome endpoint outcome =>
    obtain ⟨ends, heed, same⟩ := heed_topicOutcome endpoint outcome shows.outcome
    have after : Live s e (w.command (.topicOutcome endpoint outcome)).1 { v with outcome := ends } :=
      { h with rests := ⟨⟨own, ses, { shows with outcome := same }⟩, h.rests.queue, h.rests.current⟩ }
    exact ⟨_, rfl, .live (Live.obeyed (heed ▸ after))⟩
  | source service a =>
    simp only [Command.runs, Bool.and_eq_true, beq_iff_eq, Bool.or_eq_true] at runs
    obtain ⟨rfl, rfl | rfl⟩ := runs
    · obtain ⟨v', hears, after⟩ := h.activate
      exact ⟨v', hears, .live after⟩
    · obtain ⟨v', hears, after⟩ := h.standby
      exact ⟨v', hears, .live after⟩
  | closeServices =>
    refine ⟨{ v with life := .ended }, by simp [Solo.Hears, Solo.heed, h.life], .ended ?_ rfl⟩
    exact h.closes.letGo.settle
  | _ => cases runs

theorem Solo.hears_of_dead (dead : v.life ≠ .live) (c : Command) :
    ∃ v', Solo.Hears s e v c v' ∧ v'.told = v.told ∧ v'.life = v.life := by
  cases c with
  | advance ms => exact ⟨{ v with now := v.now + ms }, by simp [Solo.Hears, dead], rfl, rfl⟩
  | source service a =>
    refine ⟨v, ?_, rfl, rfl⟩
    cases a <;> simp [Solo.Hears, Solo.heed, dead]
  | script endpoint once repeated delay =>
    refine ⟨_, rfl, ?_⟩
    unfold Solo.heed
    dsimp only
    split <;> exact ⟨rfl, rfl⟩
  | topicOutcome endpoint outcome =>
    refine ⟨_, rfl, ?_⟩
    unfold Solo.heed
    dsimp only
    split <;> exact ⟨rfl, rfl⟩
  | closeServices => exact ⟨v, by simp [Solo.Hears, Solo.heed, dead], rfl, rfl⟩
  | _ => exact ⟨v, rfl, rfl, rfl⟩

/-- A command to a service that has been stopped. -/
theorem Hushed.obeys {told : History} (h : Hushed s e told w) {c : Command} (runs : c.runs s = true) :
    Hushed s e told (w.obey c true).1 := by
  suffices Hushed s e told (w.command c).1 from this.letGo.settle
  cases c with
  | advance ms => exact h.advance ms
  | script endpoint once repeated delay => exact { h with }
  | topicOutcome endpoint outcome => exact { h with }
  | source service a =>
    have missing : w.actOnService service a = (w, .missing) := by
      unfold World.actOnService Registry.number?
      rw [h.kept]
      rfl
    show Hushed s e told (w.actOnService service a).1
    rw [missing]
    exact h
  | closeServices =>
    have world : (w.command .closeServices).1 =
        { w with manager := some { w.managerOrNew with running := [] } } := by
      show w.changeManager w.managerOrNew.close.1 w.managerOrNew.close.2 = _
      unfold Services.close
      rw [h.unmanaged]
      rfl
    rw [world]
    exact { h with unmanaged := rfl }
  | _ => cases runs

/-- A world mirrors a solo through a command. -/
theorem Mirrors.hears (h : Mirrors s e auto w v) {c : Command} (runs : c.runs s = true) :
    ∃ v', Solo.Hears s e v c v' ∧ Mirrors s e auto (w.obey c true).1 v' := by
  cases h with
  | idle h =>
    obtain ⟨v', hears, after⟩ := h.hears runs
    exact ⟨v', hears, .idle after⟩
  | live h => exact h.hears runs
  | ended h life =>
    obtain ⟨v', hears, told, same⟩ := Solo.hears_of_dead (s := s) (e := e) (v := v)
      (by rw [life]; exact Life.noConfusion) c
    exact ⟨v', hears, .ended (told ▸ h.obeys runs) (same.trans life)⟩

/-- The service is started. -/
theorem Idle.starts (h : Idle s e auto w v) (names : (s.endpoints.map fun x => x.name).Nodup)
    (there : e ∈ s.endpoints) {m : Model} (only : m.services = [s]) :
    ∃ v', Solo.Starts s e auto v v' ∧ Mirrors s e auto (w.obey (.reconfigureServices m) true).1 v' := by
  cases period : checkPollPeriod s with
  | false =>
    exact ⟨v, by simp [Solo.Starts, period], .idle (h.fails only period).obeyed⟩
  | true =>
    have hosts : Hosts s e := ⟨names, there, (checkPollPeriod_iff s).1 period⟩
    have launched : Alike s e _ _ := h.launches (e := e) only period
    have current : (w.command (.reconfigureServices m)).1.agenda.current = none := by
      rw [launched.agenda, h.agenda]
      cases auto <;> rfl
    obtain ⟨v', settles, after⟩ := (h.shows only hosts).becomesLive hosts current rfl
      (h.clock.trans launched.now.symm)
    refine ⟨v', ?_, .live after⟩
    unfold Solo.Starts
    rw [if_pos period]
    exact settles

/-! ## Runs -/

/-- What a world and a solo have in common through each command they have in common through all. -/
theorem hears_follow {P : World → Solo → Prop}
    (step : ∀ {w v c}, P w v → Command.runs s c = true →
      ∃ v', Solo.Hears s e v c v' ∧ P (w.obey c true).1 v') :
    ∀ {cs : List Command} {w : World} {v : Solo}, P w v → (∀ c ∈ cs, c.runs s = true) →
      ∃ v', Solo.HearsAll s e cs v v' ∧ P (w.follow cs) v'
  | [], _, v, h, _ => ⟨v, .nil v, h⟩
  | c :: cs, w, v, h, runs => by
    obtain ⟨v₁, first, h₁⟩ := step h (runs c (List.mem_cons_self ..))
    obtain ⟨v₂, rest, h₂⟩ := hears_follow step h₁ fun x (hx : x ∈ cs) =>
      runs x (List.mem_cons_of_mem _ hx)
    exact ⟨v₂, .cons first rest, h₂⟩

theorem idle_create (s : ServiceConfig) (e : EndpointConfig) (auto logOnly bare : Bool) :
    Idle s e auto (World.create auto logOnly bare) {} :=
  ⟨rfl, rfl, rfl, rfl, rfl, rfl, rfl, rfl, rfl, rfl, rfl, rfl, rfl, rfl⟩

/-- A run comes to a run of a solo: what has happened of the endpoint is what the solo tells. -/
theorem told_follow (names : (s.endpoints.map fun x => x.name).Nodup) (there : e ∈ s.endpoints)
    {m : Model} (only : m.services = [s]) {before after : List Command}
    (runs : ∀ c ∈ before ++ after, c.runs s = true) (auto logOnly bare : Bool) :
    ∃ v₁ v₂ v₃ : Solo, Solo.HearsAll s e before {} v₁ ∧ Solo.Starts s e auto v₁ v₂ ∧
      Solo.HearsAll s e after v₂ v₃ ∧
      ((World.create auto logOnly bare).follow
        (before ++ .reconfigureServices m :: after)).history.concerning s e = v₃.told := by
  obtain ⟨v₁, first, idle⟩ := hears_follow (fun h => h.hears) (idle_create s e auto logOnly bare)
    fun c hc => runs c (List.mem_append_left _ hc)
  obtain ⟨v₂, starts, started⟩ := idle.starts names there only
  obtain ⟨v₃, rest, mirrors⟩ := hears_follow (fun h => h.hears) started
    fun c hc => runs c (List.mem_append_right _ hc)
  refine ⟨v₁, v₂, v₃, first, starts, rest, ?_⟩
  rw [← mirrors.told]
  simp only [World.follow, List.foldl_append, List.foldl_cons]

/-! ## Sibling endpoints -/

/-- Whether a command may matter to an endpoint: it is for this endpoint, or for the service. -/
def Command.matters (e : EndpointConfig) : Command → Bool
  | .script endpoint .. | .topicOutcome endpoint _ => endpoint == e.name
  | _ => true

/-- The commands that matter to an endpoint, each with its time, and the time at the end. -/
def timetable (e : EndpointConfig) : Nat → List Command → List (Nat × Command) × Nat
  | now, [] => ([], now)
  | now, .advance ms :: cs => timetable e (now + ms) cs
  | now, c :: cs =>
    let (rest, last) := timetable e now cs
    (if c.matters e then (now, c) :: rest else rest, last)

theorem timetable_cons {c : Command} (other : ∀ ms, c ≠ .advance ms) (now : Nat) (cs : List Command) :
    timetable e now (c :: cs) =
      (if c.matters e then (now, c) :: (timetable e now cs).1 else (timetable e now cs).1,
        (timetable e now cs).2) := by
  cases c with
  | advance ms => exact absurd rfl (other ms)
  | _ => rfl

/-- Commands that are given at their times, and the time at the end. -/
def spread (last : Nat) : Nat → List (Nat × Command) → List Command
  | now, [] => [.advance (last - now)]
  | now, (t, c) :: rest => .advance (t - now) :: c :: spread last t rest

namespace Solo

variable {cs : List Command} {others : List EndpointConfig}

theorem Hears.vain {c : Command} (h : Hears s e v c v₁) (vain : c.matters e = false) : v₁ = v := by
  cases c with
  | script endpoint once repeated delay =>
    have other : endpoint ≠ e.name := by simpa [Command.matters] using vain
    exact Eq.trans h (if_neg other)
  | topicOutcome endpoint outcome =>
    have other : endpoint ≠ e.name := by simpa [Command.matters] using vain
    exact Eq.trans h (if_neg other)
  | _ => cases vain

theorem Hears.life {ms : Nat} (h : Hears s e v (.advance ms) v₁) : v₁.life = v.life := by
  simp only [Hears] at h
  split at h
  · obtain ⟨u, elapses, rfl⟩ := h
    exact elapses.life
  · rw [h]

/-- If the time goes on to an instant and then to another, it goes on to the other. -/
theorem Elapses.trans {a b now : Nat} (h : Elapses s e a v v₁) (within : a ≤ b) {v₂ : Solo}
    (h' : Elapses s e b { v₁ with now } v₂) :
    ∃ v', Elapses s e b v v' ∧ ∀ last, { v' with now := last } = { v₂ with now := last } := by
  induction h with
  | @done v calm =>
    cases h' with
    | done calm' => exact ⟨v, .done calm', fun _ => rfl⟩
    | tick first least within settles rest => exact ⟨_, .tick first least within settles rest, fun _ => rfl⟩
  | tick first least early settles _ ih =>
    obtain ⟨v', rest, same⟩ := ih h'
    exact ⟨v', .tick first least (Nat.le_trans early within) settles rest, same⟩

/-- No time passes. -/
theorem Hears.refl (v : Solo) : Hears s e v (.advance 0) v := by
  simp [Hears]

theorem Hears.trans {a b : Nat} (h : Hears s e v (.advance a) v₁) {v₂ : Solo}
    (h' : Hears s e v₁ (.advance b) v₂) : Hears s e v (.advance (a + b)) v₂ := by
  have life := h.life
  simp only [Hears] at h h' ⊢
  by_cases live : v.life = .live
  · by_cases first : a = 0
    · subst first
      obtain rfl : v₁ = v := by simpa using h
      simpa using h'
    · rw [if_pos ⟨live, first⟩] at h
      rw [if_pos ⟨live, by omega⟩]
      obtain ⟨u, elapses, rfl⟩ := h
      by_cases last : b = 0
      · subst last
        rw [if_neg fun goes => goes.2 rfl] at h'
        exact ⟨u, elapses, h'⟩
      · rw [if_pos ⟨life.trans live, last⟩] at h'
        obtain ⟨u', elapses', rfl⟩ := h'
        obtain ⟨v', whole, same⟩ := elapses.trans (Nat.le_add_right _ b) elapses'
        rw [Nat.add_assoc] at whole
        exact ⟨v', whole, by rw [same, Nat.add_assoc]⟩
  · rw [if_neg fun goes => live goes.1] at h ⊢
    rw [if_neg fun goes => live (life.symm.trans goes.1)] at h'
    rw [h', h, Nat.add_assoc]

/-- What commands come to is settled by those that matter and by their times. -/
theorem HearsAll.paced (h : HearsAll s e cs v v₁) : ∀ {u : Solo} (now : Nat) {gap : Nat},
    Hears s e u (.advance gap) v →
      HearsAll s e (spread (timetable e (now + gap) cs).2 now (timetable e (now + gap) cs).1) u v₁ := by
  induction h with
  | nil v =>
    intro u now gap pause
    show HearsAll s e [.advance (now + gap - now)] u v
    rw [Nat.add_sub_cancel_left]
    exact .cons pause (.nil v)
  | @cons c cs v v₁ v₂ first _ ih =>
    -- the gap is the time since the last command that matters; those that do not are passed over in it
    intro u now gap pause
    by_cases advances : ∃ ms, c = .advance ms
    · obtain ⟨ms, rfl⟩ := advances
      rw [timetable, Nat.add_assoc]
      exact ih now (pause.trans first)
    · rw [timetable_cons fun ms h => advances ⟨ms, h⟩]
      cases matters : c.matters e with
      | true =>
        rw [if_pos rfl, spread, Nat.add_sub_cancel_left]
        exact .cons pause (.cons first (ih (now + gap) (.refl v₁)))
      | false =>
        rw [if_neg Bool.false_ne_true]
        exact ih now (first.vain matters ▸ pause)

theorem HearsAll.unique_of_timetable (h : HearsAll s e cs v v₁) {cs' : List Command} {v₂ : Solo}
    (h' : HearsAll s e cs' v v₂) (same : timetable e 0 cs = timetable e 0 cs') : v₁ = v₂ := by
  have paced := h.paced 0 (.refl v)
  have paced' := h'.paced 0 (.refl v)
  rw [Nat.add_zero, same] at paced
  exact paced.unique paced'

/-! The other endpoints of the service make no difference. -/

theorem turn_siblings (others : List EndpointConfig) :
    turn { s with endpoints := others } e = turn s e :=
  rfl

theorem Settles.siblings (h : Settles { s with endpoints := others } e v v₁) : Settles s e v v₁ := by
  unfold Settles at h
  rwa [turn_siblings] at h

theorem Elapses.siblings {target : Nat} (h : Elapses { s with endpoints := others } e target v v₁) :
    Elapses s e target v v₁ := by
  induction h with
  | done calm => exact .done calm
  | tick first least within settles _ ih => exact .tick first least within settles.siblings ih

theorem Hears.siblings {c : Command} (h : Hears { s with endpoints := others } e v c v₁) :
    Hears s e v c v₁ := by
  cases c with
  | advance ms =>
    simp only [Hears] at h ⊢
    split at h
    · next live =>
      obtain ⟨u, elapses, rfl⟩ := h
      rw [if_pos live]
      exact ⟨u, elapses.siblings, rfl⟩
    · next dead => rwa [if_neg dead]
  | source service a => cases a <;> exact h
  | _ => exact h

theorem HearsAll.siblings (h : HearsAll { s with endpoints := others } e cs v v₁) :
    HearsAll s e cs v v₁ := by
  induction h with
  | nil v => exact .nil v
  | cons first _ ih => exact .cons first.siblings ih

theorem Starts.unique (h : Starts s e auto v v₁) {v₂ : Solo} (h' : Starts s e auto v v₂) : v₁ = v₂ := by
  unfold Starts at h h'
  split at h
  · next period =>
    rw [if_pos period] at h'
    exact h.unique h'
  · next period =>
    rw [if_neg period] at h'
    rw [h, h']

end Solo

theorem concerning_siblings (others : List EndpointConfig) (hist : History) :
    History.concerning { s with endpoints := others } e hist = History.concerning s e hist := by
  have same (entry : Log.Entry) : tellsOf { s with endpoints := others } e entry = tellsOf s e entry :=
    rfl
  fun_induction History.concerning s e hist <;> simp_all [History.concerning]

/-- What happens of an endpoint, and when, does not depend on its siblings: neither on how they answer,
how long they take and how the creation of their topics ends, nor on what they are. -/
theorem siblings_do_not_interfere {others : List EndpointConfig}
    (names : (s.endpoints.map fun x => x.name).Nodup) (there : e ∈ s.endpoints)
    (otherNames : (others.map fun x => x.name).Nodup) (remains : e ∈ others) {m m' : Model}
    (only : m.services = [s]) (only' : m'.services = [{ s with endpoints := others }])
    {before after before' after' : List Command}
    (runs : ∀ c ∈ before ++ after, c.runs s = true) (runs' : ∀ c ∈ before' ++ after', c.runs s = true)
    (sameBefore : timetable e 0 before = timetable e 0 before')
    (sameAfter : timetable e 0 after = timetable e 0 after')
    (auto logOnly bare : Bool) :
    ((World.create auto logOnly bare).follow
        (before ++ .reconfigureServices m :: after)).history.concerning s e =
      ((World.create auto logOnly bare).follow
        (before' ++ .reconfigureServices m' :: after')).history.concerning s e := by
  obtain ⟨v₁, v₂, v₃, first, starts, rest, told⟩ := told_follow names there only runs auto logOnly bare
  obtain ⟨u₁, u₂, u₃, first', starts', rest', told'⟩ :=
    told_follow (s := { s with endpoints := others }) otherNames remains only' runs' auto logOnly bare
  rw [concerning_siblings] at told'
  obtain rfl : v₁ = u₁ := first.unique_of_timetable first'.siblings sameBefore
  obtain rfl : v₂ = u₂ := starts.unique starts'
  obtain rfl : v₃ = u₃ := rest.unique_of_timetable rest'.siblings sameAfter
  rw [told, told']

/-- An endpoint of `rates`. -/
def quotes : EndpointConfig :=
  Fixtures.endpoint "quotes" .plainText

/-- Quotes, with a sibling. -/
def rates (sibling : EndpointConfig) : ServiceConfig :=
  Fixtures.service "rates" 1000 [quotes, sibling]

/-- The quotes are answered after 100 ms. -/
def quoted : Command :=
  .script "quotes" [] (some (.ok { status := 200, body := [49] })) (some 100)

/-- The news are answered at once, or there are other news, which fail and have no topic. -/
theorem quotes_undisturbed :
    let s := rates (Fixtures.endpoint "news" .plainText)
    let others := [quotes, Fixtures.endpoint "news" .binary]
    let before := [quoted, .script "news" [] (some (.ok { status := 200 })) none]
    let before' := [.script "news" [.error (.timeout "late")] none (some 700),
      .topicOutcome "news" (.error .sessionClosed), quoted]
    let after := [.advance 1250, .source "rates" .standby, .advance 1000, .closeServices]
    let after' := [.advance 250, .script "news" [] (some (.error .cancelled)) none, .advance 1000,
      .source "rates" .standby, .advance 1000, .closeServices]
    (s.endpoints.map fun x => x.name).Nodup ∧ quotes ∈ s.endpoints ∧
      (others.map fun x => x.name).Nodup ∧ quotes ∈ others ∧
      (∀ c ∈ before ++ after, c.runs s = true) ∧ (∀ c ∈ before' ++ after', c.runs s = true) ∧
      timetable quotes 0 before = timetable quotes 0 before' ∧
      timetable quotes 0 after = timetable quotes 0 after' ∧
      ((World.create true false false).follow (before ++
          .reconfigureServices (Fixtures.model [s]) :: after)).history.concerning s quotes =
        ((World.create true false false).follow (before' ++
          .reconfigureServices (Fixtures.model [{ s with endpoints := others }]) :: after')).history.concerning
            s quotes ∧
      (((World.create true false false).follow (before ++
          .reconfigureServices (Fixtures.model [s]) :: after)).history.concerning s quotes).length = 6 := by
  intro s others before before' after after'
  have names : (s.endpoints.map fun x => x.name).Nodup := by decide +kernel
  have there : quotes ∈ s.endpoints := by decide +kernel
  have otherNames : (others.map fun x => x.name).Nodup := by decide +kernel
  have remains : quotes ∈ others := by decide +kernel
  have runs : ∀ c ∈ before ++ after, c.runs s = true := by decide +kernel
  have runs' : ∀ c ∈ before' ++ after', c.runs s = true := by decide +kernel
  have sameBefore : timetable quotes 0 before = timetable quotes 0 before' := rfl
  have sameAfter : timetable quotes 0 after = timetable quotes 0 after' := rfl
  exact ⟨names, there, otherNames, remains, runs, runs', sameBefore, sameAfter,
    siblings_do_not_interfere names there otherNames remains rfl rfl runs runs' sameBefore sameAfter
      true false false,
    by decide +kernel⟩

end TopicRelay.Simulation
