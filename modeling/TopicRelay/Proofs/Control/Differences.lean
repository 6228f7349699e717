/-
Only what changed is rebuilt. A model that reaches an active adapter is compared with the current one
at three levels: another broker or truststore needs another session, other security settings another
HTTP layer, and other services other running services. What is not needed anew stays exactly as it is.
The comparison is made with what is held, not with the current model; that the two agree is an
invariant of every run.
-/
import TopicRelay.Proofs.Control.LatestModel
import TopicRelay.Proofs.Control.Manager
import TopicRelay.Proofs.Control.Ownership

namespace TopicRelay.Control

open TopicRelay.Broker TopicRelay.Config TopicRelay.Content TopicRelay.Polling

open LifecycleEffect

variable {env : Surroundings} {m : Model} {rebuild : Bool} {l l' : Lifecycle} {ev : LifecycleEvent}
  {layer : BrokerLayer} {ds : List LifecycleEffect} {e : Option LifecycleError}

namespace LifecycleEffect

theorem builds_append (es fs : List LifecycleEffect) : builds (es ++ fs) = builds es ++ builds fs :=
  List.filterMap_append

end LifecycleEffect

namespace Lifecycle

/-! ## Sessions of services have new numbers -/

/-- The sessions of the services that run were numbered before the next one is. -/
def Numbered (l : Lifecycle) : Prop :=
  ∀ r ∈ l.services.running, r.session.number < l.services.nextNumber

theorem fresh_numbered (shutdownAwaited observed : Bool) : (fresh shutdownAwaited observed).Numbered :=
  fun _ hr => nomatch hr

theorem Serve.numbered (mv : Serve env m rebuild l layer l' ds e) : l'.Numbered := by
  have launched {http : HttpLayer} : (l.serving m layer http).Numbered := fun r hr => by
    have below := (Services.number_of_mem_fresh hr).2.2
    rwa [← List.length_map (·.config), Services.map_config_fresh] at below
  cases mv with
  | failed => exact fun _ hr => by cases hr
  | rebuilt | reused => exact launched

theorem Move.numbered (h : l.Numbered) (mv : Move env l ev l' ds e) : l'.Numbered := by
  cases mv with
  | ignored | kept | ended | discarded | failed | unasked | unheard | lost => exact h
  | deactivated | rested | untrusted | dialled | closed | severed => exact fun _ hr => by cases hr
  | served _ _ _ _ _ _ serve | accepted _ _ _ serve => exact serve.numbered

theorem run_numbered (shutdownAwaited observed : Bool) (evs : List (Surroundings × LifecycleEvent)) :
    ((fresh shutdownAwaited observed).run evs).life.Numbered :=
  run_induction (fun l env ev h => (move_step env l ev).numbered h)
    (fresh_numbered shutdownAwaited observed) evs

/-- Services that a model launches get sessions that none of those running has. -/
theorem Numbered.session_ne (h : l.Numbered) {http : HttpLayer} :
    ∀ r ∈ l.launched m layer http, ∀ r₀ ∈ l.services.running, r.session ≠ r₀.session := by
  intro r hr r₀ hr₀ same
  have above := (Services.number_of_mem_fresh hr).2.1
  have below := h r₀ hr₀
  rw [same] at above
  omega

/-! ## What a model comes to -/

theorem serves_eq_true :
    layer.serves m = true ↔ layer.broker = m.broker ∧ layer.truststore = m.truststore := by
  simp [BrokerLayer.serves]

/-- A model that the held session suits leaves everything as it is if it asks for nothing else, and is
served through that session otherwise. -/
theorem Move.of_suited (running : l.state = .active) (held : l.layer = some layer)
    (active : m.active = true) (busy : m.isIdle = false) (suits : layer.serves m = true)
    (mv : Move env l (.reconfigure m) l' ds e) :
    (¬ l.Differs m ∧ l' = { l with model := some m } ∧ ds = [] ∧ e = none) ∨
    (l.Differs m ∧ Serve env m (differInSecurity l.model m) { l with model := some m } layer l' ds e) := by
  have suited : l.Suits m := .inr ⟨running, by simp [held, suits]⟩
  cases mv with
  | ignored ended => rw [running] at ended; cases ended
  | deactivated _ off => rw [active] at off; cases off
  | rested _ _ idle => rw [busy] at idle; cases idle
  | kept _ _ _ same => exact .inl ⟨same.resolve_left (running.trans_ne (by decide)), rfl, rfl, rfl⟩
  | served _ _ _ held' _ differs serve =>
    rw [held] at held'
    cases held'
    exact .inr ⟨differs, serve⟩
  | untrusted _ _ _ unsuited | dialled _ _ _ unsuited => exact absurd suited unsuited

/-- A model that neither the held session nor the attempt under way suits ends what is held, and begins
one attempt of the next generation unless there is no trust for it. -/
theorem Move.of_unsuited (on : l.state ≠ .stopped) (active : m.active = true) (busy : m.isIdle = false)
    (unsuited : ¬ l.Suits m) (mv : Move env l (.reconfigure m) l' ds e) :
    l'.model = some m ∧ l'.layer = none ∧ closes ds = l.held.toList ∧
    ((∃ trust, env.trust m = .ok trust ∧ e = none ∧ l'.state = .connecting ∧
        l'.generation = l.generation + 1 ∧ LifecycleEffect.begun ds = [l.generation + 1] ∧
        .openSession (l.generation + 1) m.broker trust ∈ ds) ∨
      ∃ err, env.trust m = .error err ∧ e = some (.trust err) ∧ l'.state = .recovering ∧
        LifecycleEffect.begun ds = []) := by
  cases mv with
  | ignored ended => exact absurd ended on
  | deactivated _ off => rw [active] at off; cases off
  | rested _ _ idle => rw [busy] at idle; cases idle
  | kept _ _ suits => exact absurd suits unsuited
  | served _ _ running held suits => exact absurd (.inr ⟨running, by simp [held, suits]⟩) unsuited
  | @untrusted _ err _ _ _ _ refused =>
    exact ⟨rfl, rfl, closes_clearing l, .inr ⟨err, refused, rfl, rfl, begun_clearing l⟩⟩
  | @dialled _ trust _ _ _ _ loaded =>
    refine ⟨rfl, rfl, ?_, .inl ⟨trust, loaded, rfl, rfl, rfl, ?_, by simp⟩⟩
    · rw [closes_append, closes_clearing]
      exact List.append_nil _
    · rw [begun_append, begun_clearing]
      rfl

/-- A model with nothing to poll leaves the held session alone. -/
theorem Move.of_idle (on : l.state ≠ .stopped) (active : m.active = true) (idle : m.isIdle = true)
    (mv : Move env l (.reconfigure m) l' ds e) :
    l'.layer = l.layer ∧ LifecycleEffect.begun ds = [] ∧ closes ds = [] := by
  cases mv with
  | ignored ended => exact absurd ended on
  | deactivated _ off => rw [active] at off; cases off
  | rested => exact ⟨rfl, begun_retirements _, closes_retirements _⟩
  | kept _ busy | served _ busy | untrusted _ _ busy | dialled _ _ busy => rw [idle] at busy; cases busy

/-! ## Through the same session -/

@[simp] theorem builds_retirements (rs : List Running) : builds (retirements rs) = [] := by
  simp [builds, retirements]

@[simp] theorem builds_launches (rs : List Running) : builds (launches rs) = [] := by
  simp [builds, launches]

theorem shortfall_ne_httpLayer (m : Model) (x : PollError) : shortfall m ≠ some (.httpLayer x) := by
  unfold shortfall
  split <;> simp

/-- While an HTTP layer is there, another one is asked for exactly if it is to be rebuilt; and unless
that fails, the services that ran are retired and those of the model launched in new sessions. -/
theorem Serve.replaces {http : HttpLayer} (nu : l.Numbered) (there : l.http = some http)
    (mv : Serve env m rebuild l layer l' ds e) :
    ((builds ds ≠ [] ∨ ∃ x, e = some (.httpLayer x)) ↔ rebuild = true) ∧
    (rebuild = false ∨ env.httpFailure = none →
      ds = (builds ds).map .httpBuilt ++
        (retirements l.services.running ++ launches l'.services.running) ∧
      l'.services.running.map (·.config) = m.services.filter (·.pollPeriodMs != 0) ∧
      ∀ r ∈ l'.services.running, ∀ r₀ ∈ l.services.running, r.session ≠ r₀.session) := by
  cases mv with
  | @failed x needed failure =>
    have rebuilding : rebuild = true := needed.resolve_right (by simp [there])
    refine ⟨⟨fun _ => rebuilding, fun _ => .inr ⟨x, rfl⟩⟩, fun h => ?_⟩
    rcases h with h | h
    · rw [rebuilding] at h; cases h
    · rw [failure] at h; cases h
  | rebuilt needed built =>
    have rebuilding : rebuild = true := needed.resolve_right (by simp [there])
    have one : builds (.httpBuilt (l.httpFor m) ::
        (retirements l.services.running ++ launches (l.launched m layer (l.httpFor m)))) =
        [l.httpFor m] := by
      show l.httpFor m :: builds (_ ++ _) = _
      rw [builds_append, builds_retirements, builds_launches]
      rfl
    rw [one]
    exact ⟨⟨fun _ => rebuilding, fun _ => .inl nofun⟩,
      fun _ => ⟨rfl, Services.map_config_fresh .., nu.session_ne⟩⟩
  | @reused http' kept =>
    have none_built :
        builds (retirements l.services.running ++ launches (l.launched m layer http')) = [] := by
      rw [builds_append, builds_retirements, builds_launches, List.nil_append]
    rw [none_built, kept]
    refine ⟨⟨fun h => ?_, nofun⟩, fun _ => ⟨rfl, Services.map_config_fresh .., nu.session_ne⟩⟩
    rcases h with h | ⟨x, hx⟩
    · exact absurd rfl h
    · exact absurd hx (shortfall_ne_httpLayer m x)

theorem security_congr {p : Model} (h : m.services = p.services) : m.security = p.security := by
  unfold Model.security
  rw [h]

theorem differs_iff {p : Model} (asked : l.model = some p) :
    l.Differs m ↔ m.services ≠ p.services := by
  simp only [Differs, differInSecurity, differInServices, asked, bne_iff_ne, ne_eq, @eq_comm _ p.security,
    @eq_comm _ p.services]
  exact or_iff_right_of_imp fun h h' => h (security_congr h')

/-- A model with the broker and the truststore of the current one is applied through the held session. -/
theorem Move.of_same_session {p : Model} {http : HttpLayer} (nu : l.Numbered) (running : l.state = .active)
    (asked : l.model = some p) (held : l.layer = some layer) (there : l.http = some http)
    (active : m.active = true) (busy : m.isIdle = false) (suits : layer.serves m = true)
    (mv : Move env l (.reconfigure m) l' ds e) :
    l'.model = some m ∧ LifecycleEffect.begun ds = [] ∧ closes ds = [] ∧ l'.layer = l.layer ∧
    ((builds ds ≠ [] ∨ ∃ x, e = some (.httpLayer x)) ↔ m.security ≠ p.security) ∧
    (m.services = p.services → ds = [] ∧ l' = { l with model := some m }) ∧
    (m.services ≠ p.services → m.security = p.security ∨ env.httpFailure = none →
      ds = (builds ds).map .httpBuilt ++
        (retirements l.services.running ++ launches l'.services.running) ∧
      l'.services.running.map (·.config) = m.services.filter (·.pollPeriodMs != 0) ∧
      ∀ r ∈ l'.services.running, ∀ r₀ ∈ l.services.running, r.session ≠ r₀.session) := by
  -- whether the services authenticate differently is decided by the services themselves
  rcases mv.of_suited running held active busy suits with ⟨same, rfl, rfl, rfl⟩ | ⟨differs, serve⟩
  · have services : m.services = p.services := by simpa [differs_iff asked] using same
    exact ⟨rfl, rfl, rfl, rfl, by simp [builds, security_congr services], fun _ => ⟨rfl, rfl⟩,
      fun h => absurd services h⟩
  · obtain ⟨hlayer, -, -, -, hbegun⟩ := serve.frame
    obtain ⟨asks, replaced⟩ := serve.replaces (l := { l with model := some m }) nu there
    have rebuild_iff : differInSecurity l.model m = true ↔ m.security ≠ p.security := by
      simp [differInSecurity, asked, @eq_comm _ p.security]
    refine ⟨serve.model.1, hbegun, serve.held.2, hlayer, asks.trans rebuild_iff,
      fun h => absurd h ((differs_iff asked).1 differs), fun _ h => replaced (h.imp_left fun h => ?_)⟩
    rw [← Bool.not_eq_true, rebuild_iff]
    exact not_not.2 h

/-! ## Through another session -/

/-- After a run, a model that needs another session closes the held one and begins one attempt, in a
generation that no attempt had before, unless there is no trust for it. -/
theorem run_unsuited (shutdownAwaited observed : Bool) (evs : List (Surroundings × LifecycleEvent)) :
    let past := (fresh shutdownAwaited observed).run evs
    past.life.state ≠ .stopped → m.active = true → m.isIdle = false → ¬ past.life.Suits m →
      let c := past.life.step env (.reconfigure m)
      c.life.model = some m ∧ closes c.effects = past.life.held.toList ∧ c.life.held = none ∧
      ((∃ trust, env.trust m = .ok trust ∧ c.error = none ∧
          LifecycleEffect.begun c.effects = [c.life.generation] ∧
          .openSession c.life.generation m.broker trust ∈ c.effects ∧
          ∀ g ∈ LifecycleEffect.begun past.effects, g < c.life.generation) ∨
        ∃ err, env.trust m = .error err ∧ c.error = some (.trust err) ∧
          LifecycleEffect.begun c.effects = []) := by
  intro past on active busy unsuited c
  obtain ⟨-, reached, -⟩ := run_begun (fresh shutdownAwaited observed) evs
  obtain ⟨hmodel, hlayer, hcloses, outcome⟩ :=
    (move_step env past.life (.reconfigure m)).of_unsuited on active busy unsuited
  have hheld : c.life.held = none := by rw [held, hlayer]; rfl
  rw [Course.deeds, closes_deeds] at hcloses
  rw [Course.deeds, begun_deeds] at outcome
  refine ⟨hmodel, hcloses, hheld, outcome.imp ?_ ?_⟩
  · rintro ⟨trust, loaded, herror, -, hgeneration, hbegun, hopen⟩
    rw [← hgeneration] at hbegun hopen
    refine ⟨trust, loaded, herror, hbegun, (mem_deeds.1 hopen).1, fun g hg => ?_⟩
    rw [hgeneration]
    exact Nat.lt_succ_of_le (reached g hg).2
  · rintro ⟨err, refused, herror, -, hbegun⟩
    exact ⟨err, refused, herror, hbegun⟩

/-! ## What a model changes -/

/-- Only what changed is rebuilt. After every run of models, closings, results of attempts and reports
of the broker, in any order, let an active model arrive.

While the adapter is active and the model has something to poll, it becomes the current one, and:
* with the same broker and truststore, no session is opened or closed; an HTTP layer is asked for
  exactly if the services authenticate differently; equal services mean that nothing is done at all and
  everything stays; other services mean that all that ran are retired and those of the model with a poll
  period are launched, in sessions that none of the former had, unless the HTTP layer could not be built;
* with another broker or truststore, the held session is closed once, and one attempt is begun for the
  model in a generation that no attempt had before, unless its truststore cannot be loaded.

With nothing to poll, in any state but the last, no session is opened, closed or dropped. -/
theorem only_what_changed_is_rebuilt (shutdownAwaited observed : Bool)
    (evs : List (Surroundings × LifecycleEvent)) :
    let past := (fresh shutdownAwaited observed).run evs
    let l := past.life
    (∀ env m m', l.state = .active → l.model = some m → m'.active = true → m'.isIdle = false →
      let c := l.step env (.reconfigure m')
      c.life.model = some m' ∧
      (m'.broker = m.broker ∧ m'.truststore = m.truststore →
        LifecycleEffect.begun c.effects = [] ∧ closes c.effects = [] ∧ c.life.layer = l.layer ∧
        ((builds c.effects ≠ [] ∨ ∃ x, c.error = some (.httpLayer x)) ↔ m'.security ≠ m.security) ∧
        (m'.services = m.services → c.deeds = [] ∧ c.life = { l with model := some m' }) ∧
        (m'.services ≠ m.services → m'.security = m.security ∨ env.httpFailure = none →
          c.deeds = (builds c.effects).map .httpBuilt ++
            (retirements l.services.running ++ launches c.life.services.running) ∧
          c.life.services.running.map (·.config) = m'.services.filter (·.pollPeriodMs != 0) ∧
          ∀ r ∈ c.life.services.running, ∀ r₀ ∈ l.services.running, r.session ≠ r₀.session)) ∧
      (¬ (m'.broker = m.broker ∧ m'.truststore = m.truststore) →
        (∃ s, l.held = some s ∧ closes c.effects = [s]) ∧ c.life.held = none ∧
        ((∃ trust, env.trust m' = .ok trust ∧ c.error = none ∧
            LifecycleEffect.begun c.effects = [c.life.generation] ∧
            .openSession c.life.generation m'.broker trust ∈ c.effects ∧
            ∀ g ∈ LifecycleEffect.begun past.effects, g < c.life.generation) ∨
          ∃ err, env.trust m' = .error err ∧ c.error = some (.trust err) ∧
            LifecycleEffect.begun c.effects = []))) ∧
    (∀ env m', l.state ≠ .stopped → m'.active = true → m'.isIdle = true →
      let c := l.step env (.reconfigure m')
      LifecycleEffect.begun c.effects = [] ∧ closes c.effects = [] ∧ c.life.layer = l.layer) := by
  intro past l
  have agreed : l.Agreement := run_agreement (fresh_agreement shutdownAwaited observed) evs
  have numbered : l.Numbered := run_numbered shutdownAwaited observed evs
  refine ⟨fun env m m' running asked active busy => ?_, fun env m' on active idle => ?_⟩
  · obtain ⟨m₀, layer, http, asked₀, held, suits, there⟩ := agreed.active running
    rw [asked] at asked₀
    cases asked₀
    obtain ⟨hbroker, htrust⟩ := serves_eq_true.1 suits
    -- the held session was opened for the broker and the truststore of the current model
    by_cases same : m'.broker = m.broker ∧ m'.truststore = m.truststore
    · have suits' : layer.serves m' = true := by
        rw [serves_eq_true, same.1, same.2]
        exact ⟨hbroker, htrust⟩
      obtain ⟨hmodel, rest⟩ := (move_step env l (.reconfigure m')).of_same_session numbered running asked
        held there active busy suits'
      simp only [Course.deeds, begun_deeds, closes_deeds, builds_deeds] at rest
      exact ⟨hmodel, fun _ => rest, fun h => absurd same h⟩
    · have unsuited : ¬ l.Suits m' := by
        rintro (⟨connecting, -⟩ | ⟨-, suits'⟩)
        · rw [running] at connecting; cases connecting
        · simp only [held, Option.any_some, serves_eq_true, hbroker, htrust] at suits'
          exact same ⟨suits'.1.symm, suits'.2.symm⟩
      obtain ⟨hmodel, hcloses, hheld, outcome⟩ := run_unsuited shutdownAwaited observed evs
        (running.trans_ne (by decide)) active busy unsuited
      have holds : l.held = some layer.session := by rw [Lifecycle.held, held]; rfl
      rw [holds] at hcloses
      exact ⟨hmodel, fun h => absurd h same, fun _ => ⟨⟨layer.session, holds, hcloses⟩, hheld, outcome⟩⟩
  · obtain ⟨hlayer, hbegun, hcloses⟩ := (move_step env l (.reconfigure m')).of_idle on active idle
    rw [Course.deeds, begun_deeds] at hbegun
    rw [Course.deeds, closes_deeds] at hcloses
    exact ⟨hbegun, hcloses, hlayer⟩

/-- Surroundings in which nothing fails. -/
def calm : Surroundings :=
  { trust := fun _ => .ok none, httpFailure := none }

/-- A model of one service. -/
def weatherModel (pollPeriodMs : UInt64) : Model :=
  let service : ServiceConfig :=
    (ServiceConfig.plain "weather" "localhost" 80 "root").addEndpoint
      { name := "now", url := "/now", topicPath := "now" }
  { active := true, broker := .at "localhost" 8080, services := [{ service with pollPeriodMs }] }

/-- A model and the session that it asks for. -/
def started : List (Surroundings × LifecycleEvent) :=
  [(calm, .reconfigure (weatherModel 500)),
    (calm, .opened 1 (.ok
      { id := "s-1", number := 0, client := .standIn, broker := .at "localhost" 8080, trust := none }))]

/-- Another poll period: the session and the HTTP layer stay, the service is launched anew. -/
theorem only_what_changed_is_rebuilt_period :
    let l := ((fresh true true).run started).life
    let c := l.step calm (.reconfigure (weatherModel 1000))
    l.state = .active ∧ closes c.effects = [] ∧ builds c.effects = [] ∧
      c.life.services.running.map (·.config) = (weatherModel 1000).services := by
  intro l c
  obtain ⟨-, hcloses, -, hbuilds, -, replaced⟩ :=
    ((only_what_changed_is_rebuilt true true started).1 calm (weatherModel 500) (weatherModel 1000)
      (by decide) (by decide) (by decide) (by decide)).2.1 (by decide)
  refine ⟨by decide, hcloses, ?_, (replaced (by decide) (.inr rfl)).2.1⟩
  by_contra asked
  exact hbuilds.1 (.inl asked) (by decide)

end Lifecycle

end TopicRelay.Control
