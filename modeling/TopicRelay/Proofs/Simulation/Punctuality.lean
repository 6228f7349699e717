/-
Endpoints are polled on time. A world goes on by steps: commands are taken, tasks have their turns, and
the clock moves on once no task can run. Along every course of such steps, the polls of an endpoint play
the score of its poll period from the instant at which its polling began, however each poll ends, for as
long as its session is not stopped.
-/
import Mathlib.Logic.Relation
import TopicRelay.Proofs.Simulation.OwnTurn
import TopicRelay.Simulation.Fixtures

namespace TopicRelay.Simulation

open TopicRelay.Broker TopicRelay.Config TopicRelay.Content TopicRelay.Control
open TopicRelay.Polling TopicRelay.Publication TopicRelay.Time

namespace World

/-- What can come next in a world: a command is taken at once, the task that stands first has its turn,
or, when none can run, the clock goes on, at most to the next timer. -/
inductive Proceeds (w : World) : World → Prop
  | asked (c : Command) (instant : c.isInstant = true) : Proceeds w (w.command c).1.letGo
  | turned : Proceeds w w.runNext
  | passed {later : Nat} (onward : w.now ≤ later) (idle : w.agenda.queue = [])
      (early : ∀ τ ∈ w.agenda.timers, later ≤ τ.due) : Proceeds w (w.wakeAt later)

/-- The courses that a world can take. -/
abbrev Course : World → World → Prop :=
  Relation.ReflTransGen Proceeds

/-- Whether an endpoint is polled by a session that runs. -/
def Polled (key : SessionKey) (name : String) (w : World) : Prop :=
  ∃ m, w.member? key = some m ∧ m.session.running = true ∧ (m.session.slot? name).isSome = true

instance (key : SessionKey) (name : String) (w : World) : Decidable (w.Polled key name) :=
  decidable_of_iff
    ((w.member? key).any (fun m => m.session.running && (m.session.slot? name).isSome) = true) <| by
      simp [Polled, Option.any_eq_true]

end World

variable {focus : Option Focus} {f : Focus} {key : SessionKey} {name : String} {w w' w₁ : World}
  {m : Member}

/-! ## Courses -/

/-- Commands that are taken one after the other. -/
theorem course_commands : ∀ (cs : List Command) (w : World), (∀ c ∈ cs, c.isInstant = true) →
    w.Course (cs.foldl (fun w c => (w.command c).1.letGo) w)
  | [], _, _ => .refl
  | c :: rest, _, instant =>
    .head (.asked c (instant c List.mem_cons_self))
      (course_commands rest _ fun d hd => instant d (List.mem_cons_of_mem _ hd))

theorem course_runRounds (n : Nat) (w : World) : w.Course (w.runRounds n) := by
  have round (queue : List Nat) (w : World) : w.Course (queue.foldl (fun w _ => w.runNext) w) := by
    induction queue generalizing w with
    | nil => exact .refl
    | cons _ rest ih => exact .head .turned (ih w.runNext)
  induction n generalizing w with
  | zero => exact .refl
  | succ n ih =>
    unfold World.runRounds
    split
    · exact .refl
    · exact (round w.agenda.queue w).trans (ih w.runRound)

/-- What can run, runs. -/
theorem course_settle (w : World) : w.Course w.settle :=
  course_runRounds World.roundsAtOnce w

/-- Whether the clock goes from timer to timer, up to an instant, while nothing is left to run. -/
def World.goesBy (limit : Nat) : Nat → World → Bool
  | 0, w =>
    w.agenda.queue.isEmpty && decide (w.now ≤ limit) && w.agenda.timers.all fun τ => decide (limit < τ.due)
  | n + 1, w =>
    match w.agenda.nextDue? with
    | none => w.goesBy limit 0
    | some due =>
      if due ≤ limit then
        w.agenda.queue.isEmpty && decide (w.now ≤ due) && (w.wakeAt due).settle.goesBy limit n
      else w.goesBy limit 0

theorem course_reach {limit : Nat} (calm : w.goesBy limit 0 = true) :
    w.Course { w with now := limit } := by
  simp only [World.goesBy, Bool.and_eq_true, List.isEmpty_iff, decide_eq_true_eq, List.all_eq_true] at calm
  obtain ⟨⟨idle, onward⟩, late⟩ := calm
  have still : w.agenda.fire limit = w.agenda := by
    unfold Agenda.fire
    rw [List.filter_eq_nil_iff.2 fun τ hτ => by simpa using late τ hτ,
      List.filter_eq_self.2 fun τ hτ => decide_eq_true (late τ hτ)]
    rfl
  have passes : w.Proceeds (w.wakeAt limit) :=
    .passed onward idle fun τ hτ => Nat.le_of_lt (late τ hτ)
  unfold World.wakeAt at passes
  rw [still] at passes
  exact .single passes

theorem runTimers_of_late {within : Nat → Bool}
    (late : ∀ due, w.agenda.nextDue? = some due → within due = false) :
    ∀ n, w.runTimers within n = w
  | 0 => rfl
  | n + 1 => by
    unfold World.runTimers
    split
    · rfl
    · next due next => rw [late due next, if_neg Bool.false_ne_true]

theorem course_runTimers (limit : Nat) : ∀ (n : Nat) {w : World}, w.goesBy limit n = true →
    w.Course { w.runTimers (fun due => decide (due ≤ limit)) n with now := limit }
  | 0, w, calm => course_reach calm
  | n + 1, w, calm => by
    unfold World.goesBy at calm
    split at calm
    · next none =>
      rw [runTimers_of_late (by simp [none])]
      exact course_reach calm
    · next due next =>
      by_cases within : due ≤ limit
      · have goes : w.runTimers (fun due => decide (due ≤ limit)) (n + 1) =
            (w.wakeAt due).settle.runTimers (fun due => decide (due ≤ limit)) n := by
          rw [World.runTimers, next]
          exact if_pos (decide_eq_true within)
        rw [if_pos within] at calm
        simp only [Bool.and_eq_true, List.isEmpty_iff, decide_eq_true_eq] at calm
        obtain ⟨⟨idle, onward⟩, later⟩ := calm
        have woken : w.Proceeds (w.wakeAt due) :=
          .passed onward idle ((timers_of_nextDue?.2 due next).2)
        rw [goes]
        exact ((course_settle _).head woken).trans (course_runTimers limit n later)
      · rw [if_neg within] at calm
        rw [runTimers_of_late (by simpa [next] using within)]
        exact course_reach calm

/-- Time that passes is a course, if all that can run at an instant has run before the clock goes on. -/
theorem course_advance (w : World) (ms : Nat)
    (calm : w.settle.goesBy (w.now + ms) (ms + 1) = true) : w.Course (w.advance ms) :=
  (course_settle w).trans (course_runTimers (w.now + ms) (ms + 1) calm)

/-! ## Along a course -/

theorem fine_create (autoActivate logOnly bare : Bool) :
    Fine ⟨none, [], none⟩ (World.create autoActivate logOnly bare) := by
  refine ⟨⟨List.nodup_nil, List.forall_mem_nil _, List.forall_mem_nil _, rfl, ?_, .empty, nofun⟩, nofun⟩
  rintro _ ⟨⟩
  rfl

/-- A turn, be it that of the cycle that polls the endpoint or another. -/
theorem Fine.turned (h : Fine ⟨focus, [], none⟩ w) : Fine ⟨focus, [], none⟩ w.runNext := by
  cases focus with
  | none => exact h.runNext fun _ _ _ _ => nofun
  | some f =>
    by_cases own : ∃ t a, w.agenda.pop? = some (t, a) ∧ t.aborted = false ∧ f.Own t.work w
    · obtain ⟨t, a, popped, active, own⟩ := own
      exact h.runNext_own popped active own
    · refine h.runNext fun t a popped active => ?_
      rintro _ ⟨⟩ mine
      exact own ⟨t, a, popped, active, mine⟩

theorem Fine.proceeds (h : Fine ⟨focus, [], none⟩ w) (begun : ∀ f ∈ focus, f.begun = true)
    (step : w.Proceeds w') : Fine ⟨focus, [], none⟩ w' := by
  cases step with
  | asked c instant => exact (h.command c instant).letGo
  | turned => exact h.turned
  | passed onward idle early => exact h.wakeAt begun onward idle early

theorem Fine.course (h : Fine ⟨focus, [], none⟩ w) (begun : ∀ f ∈ focus, f.begun = true)
    (course : w.Course w') : Fine ⟨focus, [], none⟩ w' := by
  induction course with
  | refl => exact h
  | tail _ step ih => exact ih.proceeds begun step

/-! ## The begin of the polling -/

/-- An endpoint that is not polled may be followed from now on. -/
theorem Fine.follow (h : Fine ⟨none, [], none⟩ w) (unpolled : ¬ w.Polled key name) :
    Fine ⟨some { key, name, origin := w.now, before := w.history.polls key name }, [], none⟩ w := by
  refine ⟨h.sane.refocus _, ?_⟩
  rintro _ ⟨⟩
  cases held : w.member? key with
  | none =>
    refine .latent rfl rfl rfl fun m hm => ?_
    rw [held] at hm
    cases hm
  | some m =>
    rcases Bool.eq_false_or_eq_true m.session.stopped with ended | live
    · refine .ended ((h.sane.refocus _).gone held w id fun m' hm' => ?_)
      rw [held] at hm'
      cases hm'
      exact ended
    · refine .latent rfl rfl rfl fun m' hm' c hc same => unpolled ⟨m, held, ?_⟩
      rw [held] at hm'
      cases hm'
      have orderly := h.sane.orderly m (mem_of_member? held)
      obtain ⟨running, slot, hs, config, -⟩ := orderly.slot_of_cycle live hc
      have found := orderly.slot? hs
      rw [config, show c.endpoint.name = name from same] at found
      exact ⟨running, by rw [found]; rfl⟩

/-- Once it is polled, its polling has begun. -/
theorem Fine.begun (h : Fine ⟨some f, [], none⟩ w) (polled : w.Polled f.key f.name) :
    Fine ⟨some { f with begun := true }, [], none⟩ w := by
  obtain ⟨m, held, running, tracked⟩ := polled
  have orderly := h.sane.orderly m (mem_of_member? held)
  obtain ⟨slot, found⟩ := Option.isSome_iff_exists.1 tracked
  have hs := List.mem_of_find?_eq_some found
  obtain ⟨c, hc, config, -⟩ := orderly.cycle_of_slot running hs
  have name : c.endpoint.name = f.name := by
    rw [config]
    simpa using List.find?_some found
  have live : m.session.stopped = false := by
    rcases Bool.eq_false_or_eq_true m.session.stopped with ended | live
    · rw [(orderly.ended ended).1] at running
      cases running
    · exact live
  obtain ⟨t, p, keeps⟩ := (h.follows f rfl).keeps_of_own held live orderly hc name
  refine ⟨h.sane.refocus _, ?_⟩
  rintro _ ⟨⟩
  exact .kept { keeps with }

/-- The step with which the polling begins takes no time. -/
theorem Fine.begins (h : Fine ⟨none, [], none⟩ w) (step : w.Proceeds w₁) (before : ¬ w.Polled key name)
    (after : w₁.Polled key name) :
    Fine ⟨some { key, name, origin := w.now, before := w.history.polls key name, begun := true }, [],
      none⟩ w₁ := by
  have followed := h.follow before
  have reached : Fine ⟨some { key, name, origin := w.now, before := w.history.polls key name }, [],
      none⟩ w₁ := by
    cases step with
    | asked c instant => exact (followed.command c instant).letGo
    | turned => exact followed.turned
    -- sessions stay as they are while time passes
    | passed => exact absurd after before
  exact reached.begun after

/-- What has been seen of an endpoint whose polling has begun, while its session is not stopped. -/
theorem Fine.on_time (h : Fine ⟨some f, [], none⟩ w) (begun : f.begun = true)
    (held : w.member? f.key = some m) (live : m.session.stopped = false) :
    ∃ d n pause beats, f.polls w = f.before ++ beats ∧
      Scored f.origin m.session.period d n pause beats ∧ w.now ≤ pause.due ∧
      (w.agenda.queue = [] → (∀ τ ∈ w.agenda.timers, w.now < τ.due) → w.now < pause.due) := by
  cases h.follows f rfl with
  | latent idle =>
    rw [begun] at idle
    cases idle
  | @kept m' c t p keeps =>
    have same := keeps.member
    rw [held] at same
    cases same
    obtain ⟨d, n, beats, seen, scored⟩ := keeps.plays
    refine ⟨d, n, p, beats, seen, scored, keeps.clock, fun idle late => ?_⟩
    rcases keeps.stands.called with timer | ⟨-, queued⟩
    · exact late _ timer
    · rw [idle] at queued
      cases queued
  | ended gone => exact absurd live (gone.not_live held)

/-- An endpoint that a running session accepts is polled. -/
theorem polled_of_accepted {e : EndpointConfig} (held : w.member? key = some m)
    (running : m.session.running = true) (live : m.session.stopped = false)
    (new : m.session.slot? e.name = none) (accepted : (w.addEndpoint key e).2 = .ok ()) :
    (w.addEndpoint key e).1.Polled key e.name := by
  have found := World.member?_addEndpoint key e w key
  rw [held, Option.map_some, if_pos rfl] at found
  refine ⟨_, found, ?_⟩
  unfold World.addEndpoint at accepted
  rw [held] at accepted
  dsimp only at accepted ⊢
  generalize (fun e => Handler.create (w.bind m.client m.session.service e) m.session.service e) =
    create at accepted ⊢
  unfold Polling.Session.add at accepted ⊢
  rw [if_neg (ne_true_of_eq_false live), new] at accepted ⊢
  dsimp only at accepted ⊢
  cases made : create e with
  | error err =>
    rw [made] at accepted
    cases accepted
  | ok handler =>
    refine ⟨running, ?_⟩
    simp [Polling.Session.slot?, List.find?_append]

/-! ## Fixed delays -/

/-- Schedules with a fixed delay, exactly.

* Recurring work that is scheduled at `now` has shown, whenever and however often it was let run, the
  beats of a number of executions that are over and, if one is under way, its begin. The execution of a
  number begins once those before it have taken their durations, each followed by the delay. No execution
  overlaps another, nothing is shown before its time, and what is due is shown by the next visit that
  goes through enough pauses. Once the work is cancelled nothing is shown any more, and it stays in the
  pause in which it was.
* So it does when its handle is dropped, whatever is done afterwards.
* An endpoint that a running session accepts is polled from then on.
* In any course that a world takes from the step with which the polling of an endpoint begins, as long as
  its session is not stopped: its polls are such a score, with the poll period for the delay, begun at
  the instant of that step, whatever the endpoint answers and whatever becomes of the answers. No poll is
  late, and when nothing is left to run, every poll that is due has begun. -/
theorem fixed_delays_are_exact :
    (∀ (now initial delay : Nat) (d : Nat → Nat) (visits : List (Nat × Nat)),
      let work := FixedDelay.schedule now initial delay
      let origin := now + initial
      let seen := work.attend d visits
      (∃ n, Scored origin delay d n seen.1.pause seen.2) ∧
      seen.2.Pairwise (fun b c => b.time ≤ c.time) ∧
      (∀ limit fuel, ∀ b ∈ (seen.1.runUntil d limit fuel).2, b.time ≤ limit) ∧
      (∀ limit fuel k, beginning origin delay d k ≤ limit → 2 * k + 1 ≤ fuel →
        .started (beginning origin delay d k) ∈ (work.attend d (visits ++ [(limit, fuel)])).2) ∧
      ∀ later, seen.1.cancel.attend d later = (seen.1.cancel, [])) ∧
    (∀ (r : Recurring) (release : RecurringCommand), release = .cancel ∨ release = .drop →
      ∀ (settled : Bool) (later : List (RecurringCommand × Bool)),
        (r.obeyAll ((release, settled) :: later)).2 = [] ∧
        (r.obeyAll ((release, settled) :: later)).1.work.pause = r.work.pause) ∧
    (∀ (w : World) (key : SessionKey) (e : EndpointConfig) (m : Member), w.member? key = some m →
      m.session.running = true → m.session.stopped = false → m.session.slot? e.name = none →
      (w.addEndpoint key e).2 = .ok () → (w.addEndpoint key e).1.Polled key e.name) ∧
    ∀ (autoActivate logOnly bare : Bool) (w w₁ w' : World) (key : SessionKey) (name : String) (m : Member),
      (World.create autoActivate logOnly bare).Course w → w.Proceeds w₁ →
      ¬ w.Polled key name → w₁.Polled key name → w₁.Course w' →
      w'.member? key = some m → m.session.stopped = false →
      ∃ d n pause beats, w'.history.polls key name = w.history.polls key name ++ beats ∧
        Scored w.now m.session.period d n pause beats ∧ w'.now ≤ pause.due ∧
        (w'.agenda.queue = [] → (∀ τ ∈ w'.agenda.timers, w'.now < τ.due) → w'.now < pause.due) := by
  refine ⟨FixedDelay.schedule_plays_score, ?_, ?_, ?_⟩
  · intro r release released settled later
    exact r.still_of_released released settled later
  · intro w key e m held running live new accepted
    exact polled_of_accepted held running live new accepted
  · intro autoActivate logOnly bare w w₁ w' key name m reached step before after course held live
    have fine := (fine_create autoActivate logOnly bare).course nofun reached
    have begun := fine.begins step before after
    have later := begun.course (by rintro _ ⟨⟩; rfl) course
    exact later.on_time rfl held live

/-- A service that is polled once a second. -/
def tickerService : ServiceConfig :=
  Fixtures.service "ticker" 1000 []

def tickerKey : SessionKey :=
  ⟨.named, 0⟩

/-- The session of the service runs. Every request is refused after a quarter of a second. -/
def tickerWorld : World :=
  [.script "quotes" [] none (some 250), .addService tickerService, .newSession "ticker" tickerService none,
    .startSession "ticker"].foldl (fun w c => (w.command c).1.letGo) (World.create true false true)

/-- An endpoint is added to the session. -/
def tickerBegun : World :=
  (tickerWorld.command (.addEndpoint "ticker" (Fixtures.endpoint "quotes" .json))).1.letGo

/-- Recurring work that takes two milliseconds, then three, and so on, begins as it should, and shows
nothing once its handle is dropped. The endpoint is polled once it is added, and three seconds later it has
been polled three times, in vain. -/
theorem fixed_delays_are_exact_ticker :
    .started 17 ∈ ((FixedDelay.schedule 0 10 5).attend (fun n => n + 2) [(12, 4), (20, 9)]).2 ∧
    ((Recurring.schedule 10 5 [2]).obeyAll [(.drop, true), (.advance 100, true)]).2 = [] ∧
    (tickerWorld.addEndpoint tickerKey (Fixtures.endpoint "quotes" .json)).1.Polled tickerKey "quotes" ∧
    let w := tickerBegun.advance 3000
    w.history.polls tickerKey "quotes" =
        [.started 0, .ended 250, .started 1250, .ended 1500, .started 2500, .ended 2750] ∧
      ∃ m d n pause beats, w.member? tickerKey = some m ∧
        w.history.polls tickerKey "quotes" = tickerWorld.history.polls tickerKey "quotes" ++ beats ∧
        Scored tickerWorld.now m.session.period d n pause beats ∧ w.now ≤ pause.due := by
  obtain ⟨recurring, released, accepted, polled⟩ := fixed_delays_are_exact
  refine ⟨?_, ?_, ?_, by decide +kernel, ?_⟩
  · obtain ⟨-, -, -, begins, -⟩ := recurring 0 10 5 (fun n => n + 2) [(12, 4)]
    exact begins 20 9 1 (by decide) (by decide)
  · exact (released (Recurring.schedule 10 5 [2]) .drop (.inr rfl) true [(.advance 100, true)]).1
  · have idle : (tickerWorld.member? tickerKey).map (fun m =>
        (m.session.running, m.session.stopped, m.session.slot? "quotes")) = some (true, false, none) := by
      decide +kernel
    obtain ⟨m, held, idle⟩ := Option.map_eq_some_iff.1 idle
    simp only [Prod.mk.injEq] at idle
    have taken : (tickerWorld.addEndpoint tickerKey (Fixtures.endpoint "quotes" .json)).2.isOk = true := by
      decide +kernel
    refine accepted tickerWorld tickerKey (Fixtures.endpoint "quotes" .json) m held idle.1 idle.2.1 idle.2.2 ?_
    cases result : (tickerWorld.addEndpoint tickerKey (Fixtures.endpoint "quotes" .json)).2 with
    | ok => rfl
    | error err =>
      rw [result] at taken
      cases taken
  · have running : ((tickerBegun.advance 3000).member? tickerKey).map (·.session.stopped) = some false := by
      decide +kernel
    obtain ⟨m, held, live⟩ := Option.map_eq_some_iff.1 running
    have reached : (World.create true false true).Course tickerWorld :=
      course_commands _ _ (by decide)
    have later : tickerBegun.Course (tickerBegun.advance 3000) :=
      course_advance tickerBegun 3000 (by decide +kernel)
    obtain ⟨d, n, pause, beats, polls, scored, clock, -⟩ :=
      polled true false true tickerWorld tickerBegun (tickerBegun.advance 3000) tickerKey "quotes" m
        reached (.asked _ rfl) (by decide +kernel) (by decide +kernel) later held live
    exact ⟨m, d, n, pause, beats, held, polls, scored, clock⟩

end TopicRelay.Simulation
