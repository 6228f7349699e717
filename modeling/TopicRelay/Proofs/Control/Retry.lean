/-
Failed models can be tried again. A model may fail at three points: its trust cannot be loaded once
everything has been given up, its HTTP layer cannot be built while the session stays, or some of its
services have no poll period while the others run. Each failure leaves the adapter in a state of its
own, and from the ones that wait for a model the next one gives up what is still held and begins a new
attempt.
-/
import TopicRelay.Proofs.Control.Differences

namespace TopicRelay.Control

open TopicRelay.Broker TopicRelay.Config TopicRelay.Content TopicRelay.Polling

open LifecycleEffect

variable {env : Surroundings} {m : Model} {rebuild : Bool} {l l' : Lifecycle} {ev : LifecycleEvent}
  {layer : BrokerLayer} {ds : List LifecycleEffect} {err : LifecycleError}

namespace Lifecycle

/-! ## Failures -/

/-- How a model fails: the error, the lifecycle after it, and the deeds. -/
inductive Failure (m : Model) (l : Lifecycle) : LifecycleError → Lifecycle → List LifecycleEffect → Prop
  /-- There is no trust for it, and everything has been given up. -/
  | untrusted (e : Trust.TrustError) :
      Failure m l (.trust e) { l.cleared with model := some m, trust := none, state := .recovering }
        l.clearing
  /-- The HTTP layer cannot be built, and the services have ended. -/
  | unlayered (e : PollError) {layer : BrokerLayer} (held : l.layer = some layer) :
      Failure m l (.httpLayer e) { l.halted with model := some m, http := none, state := .recovering }
        (retirements l.services.running)
  /-- Some services have no poll period, and the others have been launched. -/
  | refused {l' : Lifecycle} (built : List HttpLayer)
      (some_refused : Services.refused m.services ≠ []) (on : l'.state = .active) (asked : l'.model = some m)
      (wanted : l'.services.running.map (·.config) = m.services.filter (·.pollPeriodMs != 0)) :
      Failure m l (.services (Services.refused m.services)) l'
        (built.map .httpBuilt ++ (retirements l.services.running ++ launches l'.services.running))

theorem shortfall_eq_some (h : shortfall m = some err) :
    Services.refused m.services ≠ [] ∧ err = .services (Services.refused m.services) := by
  unfold shortfall at h
  split at h
  · cases h
  · rename_i some_refused
    cases h
    exact ⟨by simpa using some_refused, rfl⟩

theorem Serve.failure (held : l.layer = some layer) (asked : l.model = some m)
    (mv : Serve env m rebuild l layer l' ds (some err)) : Failure m l err l' ds := by
  -- whichever layer serves, the services of the model were launched through it
  generalize he : some err = e at mv
  cases mv with
  | @failed e =>
    cases he
    have h := Failure.unlayered (m := m) e held
    rwa [← asked] at h
  | rebuilt =>
    obtain ⟨some_refused, rfl⟩ := shortfall_eq_some he.symm
    exact .refused [l.httpFor m] some_refused rfl asked (Services.map_config_fresh ..)
  | reused =>
    obtain ⟨some_refused, rfl⟩ := shortfall_eq_some he.symm
    exact .refused [] some_refused rfl asked (Services.map_config_fresh ..)

/-- A model that ends in an error fails in one of these ways. -/
theorem Move.failure (mv : Move env l (.reconfigure m) l' ds (some err)) : Failure m l err l' ds := by
  generalize he : some err = e at mv
  cases mv with
  | ignored | deactivated | rested | kept | dialled => cases he
  | untrusted =>
    cases he
    exact .untrusted _
  | served _ _ _ held _ _ serve =>
    subst he
    have failed : Failure m { l with model := some m } err l' ds := serve.failure held rfl
    -- the failure does not depend on the model that was current before
    cases failed with
    | untrusted e => exact .untrusted e
    | unlayered e held => exact .unlayered e held
    | refused built some_refused on asked wanted => exact .refused built some_refused on asked wanted

/-- What a failure ends: every service that ran has been retired, and the model is the current one. -/
theorem Failure.ends (h : Failure m l err l' ds) :
    l'.model = some m ∧ ∀ r ∈ l.services.running, .services (.retire r) ∈ ds := by
  have retired {r : Running} (hr : r ∈ l.services.running) :
      LifecycleEffect.services (.retire r) ∈ retirements l.services.running :=
    List.mem_map.2 ⟨r, hr, rfl⟩
  cases h with
  | untrusted => exact ⟨rfl, fun r hr => List.mem_append_left _ (retired hr)⟩
  | unlayered => exact ⟨rfl, fun r hr => retired hr⟩
  | refused built _ _ asked =>
    exact ⟨asked, fun r hr => List.mem_append_right _ (List.mem_append_left _ (retired hr))⟩

theorem Failure.of_trust {e : Trust.TrustError} (h : Failure m l (.trust e) l' ds) :
    l'.state = .recovering ∧ closes ds = l.held.toList ∧ l'.layer = none ∧ l'.connecting = none ∧
      l'.http = none ∧ l'.services.running = [] := by
  cases h
  exact ⟨rfl, closes_clearing l, rfl, rfl, rfl, rfl⟩

theorem Failure.of_httpLayer {e : PollError} (h : Failure m l (.httpLayer e) l' ds) :
    l'.state = .recovering ∧ closes ds = [] ∧ (∃ layer, l.layer = some layer ∧ l'.layer = some layer) ∧
      l'.http = none ∧ l'.services.running = [] := by
  cases h with
  | @unlayered _ layer held => exact ⟨rfl, closes_retirements _, ⟨layer, held, held⟩, rfl, rfl⟩

theorem Failure.of_services {failures : List StartFailure} (h : Failure m l (.services failures) l' ds) :
    l'.state = .active ∧ failures ≠ [] ∧ failures = Services.refused m.services ∧
      l'.services.running.map (·.config) = m.services.filter (·.pollPeriodMs != 0) := by
  cases h with
  | refused built some_refused on _ wanted => exact ⟨on, some_refused, rfl, wanted⟩

/-! ## Trying again -/

/-- A model that fails leaves the adapter ready for the next one. After every run of models, closings,
results of attempts and reports of the broker, in any order and short of the end, a model that fails
becomes the current one all the same, every service that ran has been retired, and:
* if its trust cannot be loaded, the adapter waits for a model; the session that was held has been
  closed once, and there is neither a session nor an attempt nor an HTTP layer nor a service;
* if its HTTP layer cannot be built, the adapter waits for a model without one and without services,
  and the session is still held and has not been closed;
* if services could not be started, the adapter is active; these are exactly the services without a poll
  period, and all others run.

Whenever the adapter waits for a model, an active one with something to poll closes the session that is
still held, once, and begins one attempt in a generation that no attempt had before, unless its trust
cannot be loaded. -/
theorem failed_models_can_be_retried (shutdownAwaited observed : Bool)
    (evs : List (Surroundings × LifecycleEvent)) :
    let past := (fresh shutdownAwaited observed).run evs
    let l := past.life
    (∀ env m, l.state ≠ .stopped →
      let c := l.step env (.reconfigure m)
      (∀ err, c.error = some err →
        c.life.model = some m ∧ ∀ r ∈ l.services.running, .services (.retire r) ∈ c.effects) ∧
      (∀ e, c.error = some (.trust e) →
        c.life.state = .recovering ∧ closes c.effects = l.held.toList ∧ c.life.layer = none ∧
        c.life.connecting = none ∧ c.life.http = none ∧ c.life.services.running = []) ∧
      (∀ e, c.error = some (.httpLayer e) →
        c.life.state = .recovering ∧ closes c.effects = [] ∧
        (∃ layer, l.layer = some layer ∧ c.life.layer = some layer) ∧
        c.life.http = none ∧ c.life.services.running = []) ∧
      (∀ failures, c.error = some (.services failures) →
        c.life.state = .active ∧ failures ≠ [] ∧
        (failures = (m.services.filter fun s => s.pollPeriodMs == 0).map fun s =>
          { service := s.name, error := .invalidPollPeriod s.name 0 }) ∧
        c.life.services.running.map (·.config) = m.services.filter (·.pollPeriodMs != 0))) ∧
    (l.state = .recovering → ∀ env m, m.active = true → m.isIdle = false →
      let c := l.step env (.reconfigure m)
      closes c.effects = l.held.toList ∧ c.life.held = none ∧
      ((∃ trust, env.trust m = .ok trust ∧ c.error = none ∧
          LifecycleEffect.begun c.effects = [c.life.generation] ∧
          .openSession c.life.generation m.broker trust ∈ c.effects ∧
          ∀ g ∈ LifecycleEffect.begun past.effects, g < c.life.generation) ∨
        ∃ e, env.trust m = .error e ∧ c.error = some (.trust e) ∧
          LifecycleEffect.begun c.effects = [])) := by
  intro past l
  refine ⟨fun env m on => ?_, fun recovering env m active busy => ?_⟩
  · have fails {err : LifecycleError} (herr : (l.step env (.reconfigure m)).error = some err) :
        Failure m l err (l.step env (.reconfigure m)).life (l.step env (.reconfigure m)).deeds :=
      Move.failure (herr ▸ move_step env l (.reconfigure m))
    refine ⟨fun err herr => ?_, fun e herr => ?_, fun e herr => ?_, fun failures herr => ?_⟩
    · obtain ⟨hmodel, hretired⟩ := (fails herr).ends
      exact ⟨hmodel, fun r hr => (mem_deeds.1 (hretired r hr)).1⟩
    · have left := (fails herr).of_trust
      rwa [Course.deeds, closes_deeds] at left
    · have left := (fails herr).of_httpLayer
      rwa [Course.deeds, closes_deeds] at left
    · obtain ⟨hactive, some_refused, hfailures, wanted⟩ := (fails herr).of_services
      exact ⟨hactive, some_refused, hfailures.trans (Services.refused_eq m.services), wanted⟩
  · have unsuited : ¬ l.Suits m := by
      rintro (⟨connecting, -⟩ | ⟨running, -⟩)
      · rw [recovering] at connecting; cases connecting
      · rw [recovering] at running; cases running
    exact (run_unsuited shutdownAwaited observed evs (recovering.trans_ne (by decide)) active busy
      unsuited).2

/-- The session of a model whose HTTP layer failed is still held; the next model closes it and begins
the second attempt. -/
theorem failed_models_can_be_retried_layer :
    let failing : Surroundings := { calm with httpFailure := some (.clientUnavailable "no sockets") }
    let l := ((fresh true true).run
      [(failing, .reconfigure (weatherModel 500)), (failing, .opened 1 (.ok
        { id := "s-1", number := 0, client := .standIn, broker := .at "localhost" 8080, trust := none }))]).life
    let c := l.step calm (.reconfigure (weatherModel 500))
    l.state = .recovering ∧ (closes c.effects).map (·.id) = ["s-1"] ∧
      LifecycleEffect.begun c.effects = [2] := by
  intro failing l c
  have recovering : l.state = .recovering := by decide
  obtain ⟨hcloses, -, outcome⟩ := (failed_models_can_be_retried true true _).2 recovering calm
    (weatherModel 500) (by decide) (by decide)
  refine ⟨recovering, ?_, ?_⟩
  · rw [hcloses]
    decide
  · obtain ⟨-, -, -, hbegun, -⟩ | ⟨e, refused, -⟩ := outcome
    · rw [hbegun]
      decide
    · cases refused

end Lifecycle

end TopicRelay.Control
