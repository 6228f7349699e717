/-
The model feed and the lifecycle in step. Models are offered to the feed, which alone hands models to
the lifecycle; completions of attempts, reports of the broker and the end come in from elsewhere, also
between an offer and the handing over of its model. After any such turns the feed knows the last model
that was offered, the lifecycle has it unless it has ended, and the recurring log of the poll metrics
is the one that this model asks for.
-/
import TopicRelay.Control.ModelFeed
import TopicRelay.Proofs.Control.LatestModel

namespace TopicRelay.Control

open TopicRelay.Config

/-! ## Offers -/

/-- The models that effects hand to the lifecycle. -/
def FeedEffect.handed (es : List FeedEffect) : List Model :=
  es.filterMap fun
    | .apply m => some m
    | .cancelMetrics _ | .startMetrics _ => none

namespace ModelFeed

/-- What an offer comes to: nothing; the model is handed over; or it is handed over after the recurring
log has been replaced. -/
inductive Offered (state : AdapterState) (m : Model) (r : ModelFeed) :
    ModelFeed → List FeedEffect → Prop
  | unchanged (same : r.current = some m) (settled : state ≠ .recovering) : Offered state m r r []
  | handed (due : r.current ≠ some m ∨ state = .recovering)
      (metrics : r.current.map (·.metrics) = some m.metrics) :
      Offered state m r { r with current := some m } [.apply m]
  | replaced (due : r.current ≠ some m) (metrics : r.current.map (·.metrics) ≠ some m.metrics) :
      Offered state m r
        { current := some m
          task := wanted r.started m.metrics
          started := r.started + (wanted r.started m.metrics).toList.length }
        ((r.task.map .cancelMetrics).toList ++
          ((wanted r.started m.metrics).map .startMetrics).toList ++ [.apply m])

theorem offered_offer (state : AdapterState) (m : Model) (r : ModelFeed) :
    Offered state m r (r.offer state m).1 (r.offer state m).2 := by
  unfold offer
  split
  next h => exact .unchanged h.1 h.2
  next h =>
    split
    next metrics => exact .handed (by tauto) metrics
    next metrics =>
      refine .replaced (fun same => metrics ?_) metrics
      rw [same]
      rfl

variable {state : AdapterState} {m : Model} {r r' : ModelFeed} {es : List FeedEffect}

theorem Offered.current (h : Offered state m r r' es) : r'.current = some m := by
  cases h with
  | unchanged same => exact same
  | handed | replaced => rfl

/-- A model is handed over, once, if it is another than the last or the lifecycle is recovering. -/
theorem Offered.handed_eq (h : Offered state m r r' es) :
    FeedEffect.handed es = if r.current ≠ some m ∨ state = .recovering then [m] else [] := by
  cases h with
  | unchanged same settled => simp [FeedEffect.handed, same, settled]
  | handed due =>
    rw [if_pos due]
    rfl
  | replaced due =>
    rw [if_pos (Or.inl due)]
    cases r.task <;> cases wanted r.started m.metrics <;> rfl

/-- The recurring log is the one that the model offered asks for. -/
theorem Offered.task (h : Offered state m r r' es) {number : Nat}
    (task : r.task = r.current.bind fun p => wanted number p.metrics) :
    ∃ n, r'.task = (some m).bind fun p => wanted n p.metrics := by
  cases h with
  | unchanged same => exact ⟨number, by rw [task, same]⟩
  | handed _ metrics =>
    obtain ⟨p, current, same⟩ := Option.map_eq_some_iff.1 metrics
    refine ⟨number, task.trans ?_⟩
    rw [current, Option.bind_some, Option.bind_some, same]
  | replaced => exact ⟨r.started, rfl⟩

/-- Only a model with other metrics settings touches the recurring log. -/
theorem Offered.leaves (h : Offered state m r r' es)
    (metrics : r.current.map (·.metrics) = some m.metrics) :
    r'.task = r.task ∧ ∀ t, .cancelMetrics t ∉ es ∧ .startMetrics t ∉ es := by
  cases h with
  | unchanged => simp
  | handed => simp
  | replaced _ others => exact absurd metrics others

theorem wanted_eq_some_iff {number : Nat} {c : MetricsConfig} {t : MetricsTask} :
    wanted number c = some t ↔
      c.logging = true ∧ c.loggingIntervalMs ≠ 0 ∧ t = ⟨number, c.loggingIntervalMs.toNat⟩ := by
  unfold wanted
  split
  next h =>
    simp only [Bool.and_eq_true, bne_iff_ne] at h
    constructor
    · rintro ⟨⟩
      exact ⟨h.1, h.2, rfl⟩
    · rintro ⟨-, -, rfl⟩
      rfl
  next h =>
    simp only [Bool.and_eq_true, bne_iff_ne, not_and, not_not] at h
    constructor
    · rintro ⟨⟩
    · rintro ⟨logs, interval, -⟩
      exact absurd (h logs) interval

end ModelFeed

/-! ## Turns -/

/-- Something that the lifecycle takes from elsewhere, with what it finds outside: no model. -/
structure Outside where
  env : Surroundings
  event : LifecycleEvent
  foreign : ∀ m, event ≠ .reconfigure m

/-- A lifecycle, the feed that hands models to it, and the recurring logs that are alive. -/
structure Feeding where
  life : Lifecycle
  feed : ModelFeed := {}
  alive : List MetricsTask := []

/-- One thing that can happen to a lifecycle with a feed. -/
inductive FeedTurn where
  /-- A model is offered. Something may come in from elsewhere before it is handed over. -/
  | offer (m : Model) (meanwhile : List Outside) (env : Surroundings)
  | outside (o : Outside)

/-- The model that was offered last. -/
def lastOffer (turns : List FeedTurn) : Option Model :=
  (turns.filterMap fun
    | .offer m _ _ => some m
    | .outside _ => none).getLast?

namespace Feeding

/-- A lifecycle that has taken no event, and a feed that was offered no model. -/
def start (shutdownAwaited observed : Bool) : Feeding :=
  { life := .fresh shutdownAwaited observed }

/-- Takes what comes in from elsewhere. -/
def hear (l : Lifecycle) (os : List Outside) : Lifecycle :=
  (l.run (os.map fun o => (o.env, o.event))).life

/-- Lets an effect of the feed take place. -/
def perform (meanwhile : List Outside) (env : Surroundings) (s : Feeding) : FeedEffect → Feeding
  | .cancelMetrics t => { s with alive := s.alive.filter (· != t) }
  | .startMetrics t => { s with alive := s.alive ++ [t] }
  | .apply m => { s with life := ((hear s.life meanwhile).step env (.reconfigure m)).life }

/-- What an offer brings about. -/
def effects (s : Feeding) (m : Model) : List FeedEffect :=
  (s.feed.offer s.life.state m).2

/-- Makes an offer. -/
def offer (s : Feeding) (m : Model) (meanwhile : List Outside) (env : Surroundings) : Feeding :=
  (s.effects m).foldl (perform meanwhile env) { s with feed := (s.feed.offer s.life.state m).1 }

/-- Takes a turn. -/
def take (s : Feeding) : FeedTurn → Feeding
  | .offer m meanwhile env => s.offer m meanwhile env
  | .outside o => { s with life := hear s.life [o] }

/-- Takes turns one after the other. -/
def run (s : Feeding) (turns : List FeedTurn) : Feeding :=
  turns.foldl take s

/-! ## The invariant -/

variable {s : Feeding} {last : Option Model} {m : Model}

/-- The feed, the lifecycle and the recurring log go with a model. -/
structure InStep (last : Option Model) (s : Feeding) : Prop where
  current : s.feed.current = last
  model : s.life.state ≠ .stopped → s.life.model = last
  alive : s.alive = s.feed.task.toList
  task : ∃ number, s.feed.task = last.bind fun m => ModelFeed.wanted number m.metrics

theorem inStep_start (shutdownAwaited observed : Bool) : InStep none (start shutdownAwaited observed) :=
  ⟨rfl, fun _ => rfl, rfl, 0, rfl⟩

/-- What comes in from elsewhere ends the lifecycle or leaves it its model. -/
theorem model_hear (os : List Outside) {l : Lifecycle} (on : (hear l os).state ≠ .stopped) :
    l.state ≠ .stopped ∧ (hear l os).model = l.model := by
  induction os generalizing l with
  | nil => exact ⟨on, rfl⟩
  | cons o rest ih =>
    obtain ⟨on₁, later⟩ := ih (l := (l.step o.env o.event).life) on
    obtain ⟨on₀, now⟩ := (Lifecycle.move_step o.env l o.event).model on₁
    refine ⟨on₀, later.trans (now.trans ?_)⟩
    cases hev : o.event with
    | reconfigure m => exact absurd hev (o.foreign m)
    | close | opened | notified => rfl

/-- A lifecycle that is handed a model has it afterwards, unless it has ended. -/
theorem model_apply (l : Lifecycle) (env : Surroundings)
    (on : (l.step env (.reconfigure m)).life.state ≠ .stopped) :
    l.state ≠ .stopped ∧ (l.step env (.reconfigure m)).life.model = some m :=
  (Lifecycle.move_step env l (.reconfigure m)).model on

theorem InStep.outside (h : InStep last s) (o : Outside) : InStep last (s.take (.outside o)) := by
  refine ⟨h.current, fun on => ?_, h.alive, h.task⟩
  obtain ⟨on₀, same⟩ := model_hear [o] on
  exact same.trans (h.model on₀)

/-- What becomes of the recurring log when the effects of an offer take place: the feed and what is alive
agree again, and the lifecycle has taken the model if it was handed over. -/
theorem offer_spec {feed : ModelFeed} {es : List FeedEffect} (meanwhile : List Outside)
    (env : Surroundings) (offered : ModelFeed.Offered s.life.state m s.feed feed es)
    (alive : s.alive = s.feed.task.toList) :
    let s' := es.foldl (perform meanwhile env) { s with feed }
    s'.feed = feed ∧ s'.alive = feed.task.toList ∧
      (s'.life = s.life ∧ s.feed.current = some m ∨
        s'.life = ((hear s.life meanwhile).step env (.reconfigure m)).life) := by
  cases offered with
  | unchanged same => exact ⟨rfl, alive, Or.inl ⟨rfl, same⟩⟩
  | handed => exact ⟨rfl, alive, Or.inr rfl⟩
  | replaced =>
    -- the one that is alive is cancelled before the next one starts
    obtain ⟨life, feed, tasks⟩ := s
    obtain ⟨current, task, started⟩ := feed
    obtain rfl : tasks = task.toList := alive
    cases task <;> cases ModelFeed.wanted started m.metrics <;> simp [perform]

theorem InStep.offer (h : InStep last s) (m : Model) (meanwhile : List Outside) (env : Surroundings) :
    InStep (some m) (s.offer m meanwhile env) := by
  have offered := ModelFeed.offered_offer s.life.state m s.feed
  obtain ⟨feed, alive, life⟩ := offer_spec meanwhile env offered h.alive
  change (s.offer m meanwhile env).feed = _ at feed
  change (s.offer m meanwhile env).alive = _ at alive
  change (s.offer m meanwhile env).life = _ ∧ _ ∨ (s.offer m meanwhile env).life = _ at life
  refine ⟨?_, fun on => ?_, alive.trans (by rw [feed]), ?_⟩
  · rw [feed]
    exact offered.current
  · rcases life with ⟨kept, same⟩ | applied
    · rw [kept] at on ⊢
      rw [h.model on, ← h.current, same]
    · rw [applied] at on ⊢
      exact (model_apply _ env on).2
  · obtain ⟨number, task⟩ := h.task
    rw [feed]
    rw [← h.current] at task
    exact offered.task task

theorem InStep.take (h : InStep last s) (turn : FeedTurn) :
    InStep ((lastOffer [turn]).or last) (s.take turn) := by
  cases turn with
  | offer m meanwhile env => exact h.offer m meanwhile env
  | outside o => exact h.outside o

theorem lastOffer_cons (turn : FeedTurn) (turns : List FeedTurn) :
    lastOffer (turn :: turns) = (lastOffer turns).or (lastOffer [turn]) := by
  unfold lastOffer
  rw [← List.singleton_append, List.filterMap_append, List.getLast?_append]

theorem InStep.run (turns : List FeedTurn) :
    ∀ {last : Option Model} {s : Feeding}, InStep last s →
      InStep ((lastOffer turns).or last) (s.run turns) := by
  induction turns with
  | nil => exact fun h => h
  | cons turn turns ih =>
    intro last s h
    rw [lastOffer_cons, Option.or_assoc]
    exact ih (h.take turn)

/-! ## In step -/

/-- An offer hands its model over if it is another than the last or the lifecycle is recovering. -/
theorem InStep.handed_eq (h : InStep last s) (m : Model) : FeedEffect.handed (s.effects m) =
    if last ≠ some m ∨ s.life.state = .recovering then [m] else [] := by
  rw [← h.current]
  exact (ModelFeed.offered_offer _ m _).handed_eq

theorem InStep.alive_le_one (h : InStep last s) : s.alive.length ≤ 1 := by
  rw [h.alive]
  cases s.feed.task <;> simp

/-- A model that asks for a log has one alive. -/
theorem InStep.alive_of_logs (h : InStep (some m) s) (logs : m.metrics.logging = true)
    (interval : m.metrics.loggingIntervalMs ≠ 0) :
    ∃ t, s.alive = [t] ∧ t.interval = m.metrics.loggingIntervalMs.toNat := by
  obtain ⟨number, task⟩ := h.task
  have wanted : s.feed.task = some ⟨number, m.metrics.loggingIntervalMs.toNat⟩ :=
    task.trans (ModelFeed.wanted_eq_some_iff.2 ⟨logs, interval, rfl⟩)
  refine ⟨⟨number, m.metrics.loggingIntervalMs.toNat⟩, ?_, rfl⟩
  rw [h.alive, wanted]
  rfl

theorem InStep.alive_eq_nil (h : InStep last s)
    (silent : ∀ m, last = some m → m.metrics.logging = false ∨ m.metrics.loggingIntervalMs = 0) :
    s.alive = [] := by
  obtain ⟨number, task⟩ := h.task
  rw [h.alive, Option.toList_eq_nil_iff, Option.eq_none_iff_forall_ne_some]
  intro t there
  rw [task] at there
  obtain ⟨m, hlast, wanted⟩ := Option.bind_eq_some_iff.1 there
  obtain ⟨logs, interval, -⟩ := ModelFeed.wanted_eq_some_iff.1 wanted
  rcases silent m hlast with off | zero
  · rw [logs] at off
    cases off
  · exact interval zero

/-- An offer with the metrics settings of the last one leaves the recurring log alone. -/
theorem InStep.leaves (h : InStep last s) (metrics : last.map (·.metrics) = some m.metrics) :
    (∀ t, .cancelMetrics t ∉ s.effects m ∧ .startMetrics t ∉ s.effects m) ∧
      ∀ meanwhile env, (s.take (.offer m meanwhile env)).alive = s.alive := by
  have offered := ModelFeed.offered_offer s.life.state m s.feed
  rw [← h.current] at metrics
  obtain ⟨task, untouched⟩ := offered.leaves metrics
  refine ⟨untouched, fun meanwhile env => ?_⟩
  obtain ⟨-, alive, -⟩ := offer_spec meanwhile env offered h.alive
  exact alive.trans ((congrArg Option.toList task).trans h.alive.symm)

/-- A lifecycle that only its feed hands models to, and the recurring log of the poll metrics, keep in
step with the models that are offered, whatever else comes in and whenever. After any turns:
* an offer hands its model over, once, exactly if the model is another than the one offered last or the
  lifecycle is recovering as the offer begins, and hands over nothing otherwise;
* unless it has ended, the lifecycle has the model offered last, whether or not it could be applied;
* at most one recurring log is alive; one is if the model offered last asks for a log with an interval,
  and it has that interval; and none is otherwise;
* an offer of a model with the metrics settings of the one offered last neither cancels nor starts a
  recurring log, whatever else has changed and whether or not the model is handed over again. -/
theorem feed_keeps_in_step (shutdownAwaited observed : Bool) (turns : List FeedTurn) :
    let s := (start shutdownAwaited observed).run turns
    let last := lastOffer turns
    (∀ m, FeedEffect.handed (s.effects m) =
      if last ≠ some m ∨ s.life.state = .recovering then [m] else []) ∧
    (s.life.state ≠ .stopped → s.life.model = last) ∧
    s.alive.length ≤ 1 ∧
    (∀ m, last = some m → m.metrics.logging = true → m.metrics.loggingIntervalMs ≠ 0 →
      ∃ t, s.alive = [t] ∧ t.interval = m.metrics.loggingIntervalMs.toNat) ∧
    ((∀ m, last = some m → m.metrics.logging = false ∨ m.metrics.loggingIntervalMs = 0) →
      s.alive = []) ∧
    ∀ m, last.map (·.metrics) = some m.metrics →
      (∀ t, .cancelMetrics t ∉ s.effects m ∧ .startMetrics t ∉ s.effects m) ∧
      ∀ meanwhile env, (s.take (.offer m meanwhile env)).alive = s.alive := by
  intro s last
  have h : InStep last s := by
    simpa using (inStep_start shutdownAwaited observed).run turns
  refine ⟨h.handed_eq, h.model, h.alive_le_one, fun m hlast => ?_, h.alive_eq_nil, fun m => h.leaves⟩
  rw [hlast] at h
  exact h.alive_of_logs

/-- A model whose trust cannot be loaded is handed over again while the lifecycle is recovering, and its
recurring log goes on. -/
example :
    let m : Model :=
      { active := true, broker := .at "localhost" 8080, metrics := { logging := true }
        services := [(ServiceConfig.plain "weather" "localhost" 80 "root").addEndpoint
          { name := "now", url := "/now", topicPath := "now" }] }
    let env : Surroundings :=
      { trust := fun _ => .error (.noCertificates "trust.pem"), httpFailure := none }
    let s := (start true true).run [.offer m [] env]
    s.alive = [⟨0, 60000⟩] ∧ s.effects m = [.apply m] := by
  decide

end Feeding

end TopicRelay.Control
