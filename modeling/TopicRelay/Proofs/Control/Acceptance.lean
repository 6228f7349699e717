/-
What it says of the services that a model was taken without an error. A model whose services are
launched is reported if one of them has no poll period. One that asks for the services of the current
model once more is not applied again, and taken without an error whatever is missing: how far the
current model could be applied is not kept.
-/
import TopicRelay.Proofs.Control.Retry

namespace TopicRelay.Control

open TopicRelay.Broker TopicRelay.Config TopicRelay.Content TopicRelay.Polling

open LifecycleEffect

variable {env : Surroundings} {m p : Model} {rebuild : Bool} {l l' : Lifecycle} {layer : BrokerLayer}
  {ds : List LifecycleEffect}

namespace Lifecycle

/-! ## Nothing is missing from what is launched -/

theorem filter_of_shortfall (h : shortfall m = none) :
    m.services.filter (·.pollPeriodMs != 0) = m.services := by
  have complete : Services.refused m.services = [] := by
    unfold shortfall at h
    split at h
    · rename_i complete
      simpa using complete
    · cases h
  rw [List.filter_eq_self]
  intro s hs
  by_contra missing
  have refused : s ∈ m.services.filter fun s => !checkPollPeriod s :=
    List.mem_filter.2 ⟨hs, by simpa [checkPollPeriod] using missing⟩
  rw [List.map_eq_nil_iff.1 complete] at refused
  cases refused

theorem Serve.complete (mv : Serve env m rebuild l layer l' ds none) :
    l'.services.running.map (·.config) = m.services.filter (·.pollPeriodMs != 0) ∧
      m.services.filter (·.pollPeriodMs != 0) = m.services := by
  generalize he : none = e at mv
  cases mv with
  | failed => cases he
  | rebuilt | reused => exact ⟨Services.map_config_fresh .., filter_of_shortfall he.symm⟩

/-! ## A model that is taken -/

/-- A model asks for the session and the services of another one. -/
def Repeats (m p : Model) : Prop :=
  m.broker = p.broker ∧ m.truststore = p.truststore ∧ m.services = p.services

/-- A model that leaves the adapter active without an error had its services launched, or nothing is
done for it as it repeats the current one. -/
theorem Move.taken (h : l.Agreement) (fitted : l.Fitted) (on : l'.state = .active)
    (mv : Move env l (.reconfigure m) l' ds none) :
    l'.services.running.map (·.config) = m.services.filter (·.pollPeriodMs != 0) ∧
      (l'.services.running.map (·.config) = m.services ∨
        l.state = .active ∧ (∃ p, l.model = some p ∧ Repeats m p) ∧ ds = [] ∧
          l' = { l with model := some m }) := by
  generalize he : none = e at mv
  cases mv with
  | ignored ended => rw [ended] at on; cases on
  | deactivated | rested | dialled => cases on
  | untrusted => cases he
  | served active busy running held suits differs serve =>
    subst he
    obtain ⟨launched, complete⟩ := serve.complete
    exact ⟨launched, .inl (launched.trans complete)⟩
  | kept active busy suits same =>
    obtain ⟨p, layer, http, asked, held, serves, there⟩ := h.active on
    obtain ⟨p', http', fits⟩ := fitted.fits on
    obtain rfl : p = p' := Option.some.inj (asked.symm.trans fits.asked)
    have services : m.services = p.services := by
      have alike : ¬ l.Differs m := same.resolve_left (by rw [show l.state = .active from on]; nofun)
      simpa [differs_iff asked] using alike
    have suited : layer.serves m = true := by
      rcases suits with ⟨connecting, -⟩ | ⟨-, suited⟩
      · rw [show l.state = .active from on] at connecting; cases connecting
      · simpa [held] using suited
    obtain ⟨hbroker, htrust⟩ := serves_eq_true.1 serves
    obtain ⟨hbroker', htrust'⟩ := serves_eq_true.1 suited
    refine ⟨?_, .inr ⟨on, ⟨p, asked, hbroker'.symm.trans hbroker, htrust'.symm.trans htrust, services⟩,
      rfl, rfl⟩⟩
    rw [services]
    exact fits.services

/-- While the adapter is active, nothing is done for a model that repeats the current one. -/
theorem Move.of_repeated (h : l.Agreement) (fitted : l.Fitted) (running : l.state = .active)
    (asked : l.model = some p) (active : m.active = true) (repeats : Repeats m p)
    {e : Option LifecycleError} (mv : Move env l (.reconfigure m) l' ds e) :
    e = none ∧ ds = [] ∧ l' = { l with model := some m } := by
  obtain ⟨hbroker, htrust, hservices⟩ := repeats
  obtain ⟨p', layer, http, asked', held, serves, there⟩ := h.active running
  obtain rfl : p = p' := Option.some.inj (asked.symm.trans asked')
  have busy : m.isIdle = false := by
    unfold Model.isIdle
    rw [hservices]
    exact (fitted.busy (.inr running) p asked).2
  have suits : layer.serves m = true := by
    rw [serves_eq_true, hbroker, htrust]
    exact serves_eq_true.1 serves
  rcases mv.of_suited running held active busy suits with ⟨-, rfl, rfl, rfl⟩ | ⟨differs, -⟩
  · exact ⟨rfl, rfl, rfl⟩
  · exact absurd hservices ((differs_iff asked).1 differs)

/-- That a model was taken without an error does not say that its services run. After every run of
models, closings, results of attempts and reports of the broker, in any order:
* if a model leaves the adapter active without an error, the services that run are those of the model
  with a poll period; and either these are all of them, or the adapter was active before, the model
  repeats the current one, and nothing was done for it;
* while the adapter is active, every active model that repeats the current one is taken without an
  error, nothing is done for it, and services that are missing stay so, whether or not their failure
  was ever reported. -/
theorem repeated_models_hide_missing_services (shutdownAwaited observed : Bool)
    (evs : List (Surroundings × LifecycleEvent)) :
    let l := ((fresh shutdownAwaited observed).run evs).life
    (∀ env m, let c := l.step env (.reconfigure m)
      c.error = none → c.life.state = .active →
        c.life.services.running.map (·.config) = m.services.filter (·.pollPeriodMs != 0) ∧
          (c.life.services.running.map (·.config) = m.services ∨
            l.state = .active ∧ (∃ p, l.model = some p ∧ Repeats m p) ∧ c.deeds = [] ∧
              c.life = { l with model := some m })) ∧
    (∀ env m p, l.state = .active → l.model = some p → m.active = true → Repeats m p →
      let c := l.step env (.reconfigure m)
      c.error = none ∧ c.deeds = [] ∧ c.life = { l with model := some m } ∧
        c.life.services.running.map (·.config) = m.services.filter (·.pollPeriodMs != 0)) := by
  intro l
  have agreed : l.Agreement := run_agreement (fresh_agreement shutdownAwaited observed) evs
  have fitted : l.Fitted := run_induction (fun l env ev h => (move_step env l ev).fitted h)
    (fresh_fitted shutdownAwaited observed) evs
  have taken (env : Surroundings) (m : Model) :
      (l.step env (.reconfigure m)).error = none → (l.step env (.reconfigure m)).life.state = .active →
        _ := fun untold on => Move.taken agreed fitted on (untold ▸ move_step env l (.reconfigure m))
  refine ⟨taken, fun env m p running asked active repeats => ?_⟩
  obtain ⟨untold, idle, same⟩ :=
    (move_step env l (.reconfigure m)).of_repeated agreed fitted running asked active repeats
  refine ⟨untold, idle, same, (taken env m untold ?_).1⟩
  rw [same]
  exact running

/-- A model with two services, of which one has no poll period. -/
def lopsidedModel : Model :=
  { weatherModel 500 with services := (weatherModel 500).services ++ (weatherModel 0).services }

/-- The failure of a service is reported when the model comes for the first time, and hidden when it
comes again. -/
theorem repeated_models_hide_missing_services_lopsided :
    let l := ((fresh true true).run (started ++ [(calm, .reconfigure lopsidedModel)])).life
    let c := l.step calm (.reconfigure lopsidedModel)
    l.state = .active ∧ l.model = some lopsidedModel ∧ lopsidedModel.active = true ∧
      Repeats lopsidedModel lopsidedModel ∧ c.error = none ∧ c.deeds = [] ∧
      c.life.services.running.map (·.config) = (weatherModel 500).services := by
  intro l c
  have running : l.state = .active := by decide
  have asked : l.model = some lopsidedModel := by decide
  obtain ⟨untold, idle, -, running'⟩ := (repeated_models_hide_missing_services true true _).2 calm
    lopsidedModel lopsidedModel running asked (by decide) ⟨rfl, rfl, rfl⟩
  exact ⟨running, asked, by decide, ⟨rfl, rfl, rfl⟩, untold, idle, running'⟩

/-- The failure of a service is reported neither when a session is taken over nor when the model comes
again: it is taken without an error by an active adapter that runs nothing. -/
theorem missing_service_never_reported :
    let opening : List (Surroundings × LifecycleEvent) :=
      [(calm, .reconfigure (weatherModel 0)), (calm, .opened 1 (.ok
        { id := "s-1", number := 0, client := .standIn, broker := .at "localhost" 8080, trust := none }))]
    let past := (fresh true true).run opening
    let c := past.life.step calm (.reconfigure (weatherModel 0))
    past.error = none ∧ c.error = none ∧ c.life.state = .active ∧ c.life.services.running = [] ∧
      (weatherModel 0).services.map (·.name) = ["weather"] := by
  decide

end Lifecycle

end TopicRelay.Control
