/-
What one event can do to the lifecycle. Each operation of the lifecycle has one equation for the
lifecycle it leaves and one for its deeds, the effects that are no log entries; `Move` lists, by the
event and the condition that decides, every outcome of a step, and `move_step` says that a step is
always one of them. What a step preserves is then shown by cases on its move.
-/
import TopicRelay.Control.Lifecycle
import TopicRelay.Proofs.Control.Services

namespace TopicRelay.Control

open TopicRelay.Broker TopicRelay.Config TopicRelay.Content TopicRelay.Polling

/-! ## Deeds -/

namespace LifecycleEffect

/-- Whether an effect is a log entry. -/
def isLog : LifecycleEffect → Bool
  | .log _ => true
  | .services e => e.isLog
  | _ => false

/-- What is brought about apart from log entries. -/
def deeds (es : List LifecycleEffect) : List LifecycleEffect :=
  es.filter fun e => !e.isLog

theorem mem_deeds {e : LifecycleEffect} {es : List LifecycleEffect} :
    e ∈ deeds es ↔ e ∈ es ∧ e.isLog = false := by
  unfold deeds
  rw [List.mem_filter, Bool.not_eq_true']

/-- What makes nothing of log entries sees no difference. -/
theorem filterMap_deeds {β : Type} {f : LifecycleEffect → Option β} (log : ∀ e, f (.log e) = none)
    (services : ∀ e, f (.services (.log e)) = none) (es : List LifecycleEffect) :
    (deeds es).filterMap f = es.filterMap f := by
  unfold deeds
  rw [List.filterMap_filter]
  congr 1
  funext e
  cases e with
  | log e => exact (log e).symm
  | services e =>
    cases e with
    | log e => exact (services e).symm
    | retire | launch => rfl
  | httpBuilt | openSession | closeSession | shutdown => rfl

@[simp] theorem deeds_nil : deeds [] = [] := rfl

@[simp] theorem deeds_append (es fs : List LifecycleEffect) : deeds (es ++ fs) = deeds es ++ deeds fs :=
  List.filter_append ..

@[simp] theorem deeds_log (e : Log.Entry) (es : List LifecycleEffect) :
    deeds (.log e :: es) = deeds es :=
  List.filter_cons_of_neg (by simp [isLog])

theorem deeds_cons {e : LifecycleEffect} (h : e.isLog = false) (es : List LifecycleEffect) :
    deeds (e :: es) = e :: deeds es :=
  List.filter_cons_of_pos (by simp [h])

@[simp] theorem deeds_httpBuilt (http : HttpLayer) (es : List LifecycleEffect) :
    deeds (.httpBuilt http :: es) = .httpBuilt http :: deeds es :=
  deeds_cons rfl es

@[simp] theorem deeds_openSession (generation : Nat) (broker : BrokerConfig)
    (trust : Option Trust.Context) (es : List LifecycleEffect) :
    deeds (.openSession generation broker trust :: es) = .openSession generation broker trust :: deeds es :=
  deeds_cons rfl es

@[simp] theorem deeds_closeSession (s : Session) (es : List LifecycleEffect) :
    deeds (.closeSession s :: es) = .closeSession s :: deeds es :=
  deeds_cons rfl es

@[simp] theorem deeds_shutdown (es : List LifecycleEffect) :
    deeds (.shutdown :: es) = .shutdown :: deeds es :=
  deeds_cons rfl es

@[simp] theorem deeds_services (es : List ServicesEffect) :
    deeds (es.map .services) = (ServicesEffect.deeds es).map .services := by
  unfold deeds ServicesEffect.deeds
  rw [List.filter_map]
  rfl

/-- The end of running services. -/
def retirements (rs : List Running) : List LifecycleEffect :=
  rs.map fun r => .services (.retire r)

/-- The beginning of running services. -/
def launches (rs : List Running) : List LifecycleEffect :=
  rs.map fun r => .services (.launch r)

end LifecycleEffect

open LifecycleEffect

namespace Course

/-- What a course brings about apart from log entries. -/
def deeds (c : Course) : List LifecycleEffect :=
  LifecycleEffect.deeds c.effects

@[simp] theorem deeds_mk (l : Lifecycle) (es : List LifecycleEffect) (e : Option LifecycleError) :
    deeds ⟨l, es, e⟩ = LifecycleEffect.deeds es := rfl

@[simp] theorem deeds_effects (c : Course) : LifecycleEffect.deeds c.effects = c.deeds := rfl

@[simp] theorem andThen_life (c : Course) (f : Lifecycle → Course) :
    (c.andThen f).life = (f c.life).life := rfl

@[simp] theorem andThen_error (c : Course) (f : Lifecycle → Course) :
    (c.andThen f).error = (f c.life).error := rfl

theorem andThen_congr {c : Course} {f g : Lifecycle → Course} (h : f c.life = g c.life) :
    c.andThen f = c.andThen g := by
  unfold andThen
  rw [h]

@[simp] theorem andThen_deeds (c : Course) (f : Lifecycle → Course) :
    (c.andThen f).deeds = c.deeds ++ (f c.life).deeds :=
  LifecycleEffect.deeds_append ..

end Course

namespace Lifecycle

/-! ## Operations -/

@[simp] theorem tell_life (level : Log.Level) (event : String) (fields : List (String × Log.Field))
    (l : Lifecycle) : (l.tell level event fields).life = l := rfl

@[simp] theorem tell_error (level : Log.Level) (event : String) (fields : List (String × Log.Field))
    (l : Lifecycle) : (l.tell level event fields).error = none := rfl

@[simp] theorem tell_deeds (level : Log.Level) (event : String) (fields : List (String × Log.Field))
    (l : Lifecycle) : (l.tell level event fields).deeds = [] := rfl

@[simp] theorem tell_andThen_life (level : Log.Level) (event : String)
    (fields : List (String × Log.Field)) (l : Lifecycle) (f : Lifecycle → Course) :
    ((l.tell level event fields).andThen f).life = (f l).life := rfl

@[simp] theorem tell_andThen_error (level : Log.Level) (event : String)
    (fields : List (String × Log.Field)) (l : Lifecycle) (f : Lifecycle → Course) :
    ((l.tell level event fields).andThen f).error = (f l).error := rfl

@[simp] theorem tell_andThen_deeds (level : Log.Level) (event : String)
    (fields : List (String × Log.Field)) (l : Lifecycle) (f : Lifecycle → Course) :
    ((l.tell level event fields).andThen f).deeds = (f l).deeds := by
  rw [Course.andThen_deeds, tell_deeds, List.nil_append, tell_life]

@[simp] theorem enter_life (next : AdapterState) (l : Lifecycle) :
    (l.enter next).life = { l with state := next } := by
  unfold enter
  split
  · rename_i h; subst h; rfl
  · rfl

@[simp] theorem enter_error (next : AdapterState) (l : Lifecycle) : (l.enter next).error = none := by
  unfold enter
  split <;> rfl

@[simp] theorem enter_deeds (next : AdapterState) (l : Lifecycle) : (l.enter next).deeds = [] := by
  unfold enter
  split <;> rfl

/-- The lifecycle without running services. -/
def halted (l : Lifecycle) : Lifecycle :=
  { l with services := { l.services with running := [] } }

@[simp] theorem closeServices_life (l : Lifecycle) : l.closeServices.life = l.halted := rfl

@[simp] theorem closeServices_deeds (l : Lifecycle) :
    l.closeServices.deeds = retirements l.services.running := by
  unfold closeServices Services.close retirements
  rw [Course.deeds_mk, deeds_services, ServicesEffect.deeds_retire, List.map_map]
  rfl

/-- The lifecycle with nothing that its generation owned, in the next generation. -/
def cleared (l : Lifecycle) : Lifecycle :=
  { l.halted with http := none, connecting := none, generation := l.generation + 1, layer := none }

/-- What clearing brings about: the services end before the session that they were registered with. -/
def clearing (l : Lifecycle) : List LifecycleEffect :=
  retirements l.services.running ++ (l.layer.map fun layer => .closeSession layer.session).toList

@[simp] theorem dismantle_life (l : Lifecycle) : l.dismantle.life = l.cleared := rfl

@[simp] theorem dismantle_deeds (l : Lifecycle) : l.dismantle.deeds = l.clearing := by
  unfold dismantle clearing
  rw [Course.andThen_deeds, closeServices_deeds, closeServices_life, Course.deeds_mk]
  cases h : l.layer <;> simp [halted, h]

/-! ## Applying the services of a model -/

/-- The services that a model launches. -/
def launched (l : Lifecycle) (m : Model) (layer : BrokerLayer) (http : HttpLayer) : List Running :=
  Services.fresh { client := layer.session.client, http, observed := l.observed } l.services.owner
    l.services.nextNumber m.services

/-- The lifecycle once it runs the services of a model through a session and an HTTP layer. -/
def serving (l : Lifecycle) (m : Model) (layer : BrokerLayer) (http : HttpLayer) : Lifecycle :=
  { l with
    state := .active
    http := some http
    services := { l.services with
      running := l.launched m layer http
      nextNumber := l.services.nextNumber + (m.services.filter checkPollPeriod).length } }

/-- The error of a model whose services have no poll period, if there are any. -/
def shortfall (m : Model) : Option LifecycleError :=
  if (Services.refused m.services).isEmpty then none else some (.services (Services.refused m.services))

/-- The HTTP layer that is built for a model. -/
def httpFor (l : Lifecycle) (m : Model) : HttpLayer :=
  { number := l.layersBuilt, security := m.security, trust := l.trust }

theorem applyServices_spec {l : Lifecycle} {layer : BrokerLayer} {http : HttpLayer} (m : Model)
    (hl : l.layer = some layer) (hh : l.http = some http) :
    (l.applyServices m).life = l.serving m layer http ∧
      (l.applyServices m).deeds =
        retirements l.services.running ++ launches (l.launched m layer http) ∧
      (l.applyServices m).error = shortfall m := by
  obtain ⟨h1, h2, h3⟩ := Services.reconfigure_eq
    { client := layer.session.client, http, observed := l.observed } l.services m
  unfold applyServices
  rw [hl, hh]
  refine ⟨?_, ?_, ?_⟩
  · simp only [Course.andThen_life, enter_life, h1, serving, launched, hl]
  · show Course.deeds (Course.andThen _ _) = _
    rw [Course.andThen_deeds, enter_deeds, List.append_nil, Course.deeds_mk, deeds_services, h3]
    simp only [List.map_append, List.map_map, retirements, launches, launched]
    rfl
  · simp only [h2, shortfall]

/-- How the services of a model are applied while a session is held. -/
inductive Serve (env : Surroundings) (m : Model) (rebuild : Bool) (l : Lifecycle) (layer : BrokerLayer) :
    Lifecycle → List LifecycleEffect → Option LifecycleError → Prop
  /-- The HTTP layer that is needed cannot be built. -/
  | failed {e : PollError} (needed : rebuild = true ∨ l.http = none) (failure : env.httpFailure = some e) :
      Serve env m rebuild l layer { l.halted with http := none, state := .recovering }
        (retirements l.services.running) (some (.httpLayer e))
  /-- The services are applied through a new HTTP layer. -/
  | rebuilt (needed : rebuild = true ∨ l.http = none) (built : env.httpFailure = none) :
      Serve env m rebuild l layer
        { l.serving m layer (l.httpFor m) with layersBuilt := l.layersBuilt + 1 }
        (.httpBuilt (l.httpFor m) ::
          (retirements l.services.running ++ launches (l.launched m layer (l.httpFor m))))
        (shortfall m)
  /-- The services are applied through the HTTP layer that is there. -/
  | reused {http : HttpLayer} (kept : rebuild = false) (there : l.http = some http) :
      Serve env m rebuild l layer (l.serving m layer http)
        (retirements l.services.running ++ launches (l.launched m layer http)) (shortfall m)

theorem serve_spec (env : Surroundings) (m : Model) (rebuild : Bool) {l : Lifecycle} {layer : BrokerLayer}
    (hl : l.layer = some layer) :
    Serve env m rebuild l layer (l.serve env m rebuild).life (l.serve env m rebuild).deeds
      (l.serve env m rebuild).error := by
  unfold serve
  by_cases hn : (rebuild || l.http.isNone) = true
  · have needed : rebuild = true ∨ l.http = none := by simpa using hn
    rw [if_pos hn]
    cases hf : env.httpFailure with
    | some e =>
      simp only [Course.andThen_life, Course.deeds_mk, Course.deeds_effects, Course.andThen_deeds, tell_life,
        tell_deeds, closeServices_life, closeServices_deeds, enter_life, enter_deeds, List.nil_append,
        List.append_nil]
      exact .failed needed hf
    | none =>
      -- the services are applied to a lifecycle that has the new layer
      obtain ⟨h1, h2, h3⟩ := applyServices_spec (l := { l with
        http := some (l.httpFor m), layersBuilt := l.layersBuilt + 1 }) m hl rfl
      simp only [Course.andThen_life, Course.andThen_deeds, Course.andThen_error, Course.deeds_mk,
        deeds_httpBuilt, deeds_log, deeds_nil]
      rw [show ({ number := l.layersBuilt, security := m.security, trust := l.trust } : HttpLayer) =
        l.httpFor m from rfl, h1, h2, h3]
      exact .rebuilt needed hf
  · have : rebuild = false ∧ ∃ http, l.http = some http := by
      cases rebuild <;> cases hh : l.http <;> simp_all
    obtain ⟨kept, http, there⟩ := this
    obtain ⟨h1, h2, h3⟩ := applyServices_spec m hl there
    rw [if_neg hn, h1, h2, h3]
    exact .reused kept there

/-! ## Moves -/

/-- Whether what the lifecycle holds, or is about to hold, is what a model needs. -/
def Suits (l : Lifecycle) (m : Model) : Prop :=
  (l.state = .connecting ∧ l.connecting.any (·.serves m) = true) ∨
    (l.state = .active ∧ l.layer.any (·.serves m) = true)

/-- Whether the services of a model differ from those of the current one, or authenticate
differently. -/
def Differs (l : Lifecycle) (m : Model) : Prop :=
  differInSecurity l.model m = true ∨ differInServices l.model m = true

/-- The session that the result of an attempt carries. -/
def carried : Except ConnectionError Session → List Session
  | .ok s => [s]
  | .error _ => []

/-- The lifecycle that waits for a model, with neither services nor an HTTP layer nor an attempt. -/
def bereft (l : Lifecycle) : Lifecycle :=
  { l.halted with http := none, connecting := none, state := .recovering }

/-- What an event does to a lifecycle: the lifecycle after it, its deeds and its error. -/
inductive Move (env : Surroundings) (l : Lifecycle) :
    LifecycleEvent → Lifecycle → List LifecycleEffect → Option LifecycleError → Prop
  /-- A model is ignored after the end. -/
  | ignored {m : Model} (ended : l.state = .stopped) : Move env l (.reconfigure m) l [] none
  /-- An inactive model ends everything. -/
  | deactivated {m : Model} (on : l.state ≠ .stopped) (off : m.active = false) :
      Move env l (.reconfigure m)
        { l.cleared with state := .stopped, model := some m, shutdownAwaited := false }
        (l.clearing ++ if l.shutdownAwaited then [.shutdown] else []) none
  /-- A model with nothing to poll. -/
  | rested {m : Model} (on : l.state ≠ .stopped) (active : m.active = true) (idle : m.isIdle = true) :
      Move env l (.reconfigure m)
        { l.halted with
          http := none
          connecting := none
          generation := if l.connecting.isSome then l.generation + 1 else l.generation
          state := .standby
          model := some m }
        (retirements l.services.running) none
  /-- A model that the attempt under way suits, or one with nothing to change. -/
  | kept {m : Model} (active : m.active = true) (busy : m.isIdle = false)
      (suits : l.Suits m) (same : l.state = .connecting ∨ ¬ l.Differs m) :
      Move env l (.reconfigure m) { l with model := some m } [] none
  /-- A model that the held session suits, with other services. -/
  | served {m : Model} {layer : BrokerLayer} {l' : Lifecycle} {ds : List LifecycleEffect}
      {e : Option LifecycleError} (active : m.active = true) (busy : m.isIdle = false)
      (running : l.state = .active) (held : l.layer = some layer) (suits : layer.serves m = true)
      (differs : l.Differs m)
      (serve : Serve env m (differInSecurity l.model m) { l with model := some m } layer l' ds e) :
      Move env l (.reconfigure m) l' ds e
  /-- A model that needs another session, without its trust. -/
  | untrusted {m : Model} {e : Trust.TrustError} (on : l.state ≠ .stopped) (active : m.active = true)
      (busy : m.isIdle = false) (unsuited : ¬ l.Suits m) (refused : env.trust m = .error e) :
      Move env l (.reconfigure m)
        { l.cleared with model := some m, trust := none, state := .recovering } l.clearing
        (some (.trust e))
  /-- A model that needs another session. -/
  | dialled {m : Model} {trust : Option Trust.Context} (on : l.state ≠ .stopped)
      (active : m.active = true) (busy : m.isIdle = false) (unsuited : ¬ l.Suits m)
      (loaded : env.trust m = .ok trust) :
      Move env l (.reconfigure m)
        { l.cleared with
          model := some m
          trust
          connecting := some { broker := m.broker, truststore := m.truststore }
          state := .connecting }
        (l.clearing ++ [.openSession (l.generation + 1) m.broker trust]) none
  /-- Everything ends once. -/
  | ended (ended : l.state = .stopped) : Move env l .close l [] none
  | closed (on : l.state ≠ .stopped) :
      Move env l .close { l.cleared with state := .stopped } l.clearing none
  /-- The result of an attempt that is not wanted. -/
  | discarded {generation : Nat} {result : Except ConnectionError Session}
      (stale : generation ≠ l.generation ∨ l.state ≠ .connecting) :
      Move env l (.opened generation result) l ((carried result).map .closeSession) none
  /-- The attempt has failed. -/
  | failed {e : ConnectionError} (connecting : l.state = .connecting) :
      Move env l (.opened l.generation (.error e))
        { l with connecting := none, state := .recovering } [] none
  /-- The attempt has led to a session that no model asks for. -/
  | unasked {s : Session} (connecting : l.state = .connecting) (absent : l.model = none) :
      Move env l (.opened l.generation (.ok s))
        { l with connecting := none, state := .recovering } [.closeSession s] none
  /-- The attempt has led to a session. -/
  | accepted {s : Session} {m : Model} {l' : Lifecycle} {ds : List LifecycleEffect}
      {e : Option LifecycleError} {layer : BrokerLayer} (connecting : l.state = .connecting)
      (asked : l.model = some m)
      (taken : layer = {
        session := s, broker := m.broker, truststore := m.truststore, generation := l.generation })
      (serve : Serve env m true { l with connecting := none, layer := some layer } layer l' ds e) :
      Move env l (.opened l.generation (.ok s)) l' ds none
  /-- A report that is about neither the held session nor the attempt. -/
  | unheard {generation : Nat} {n : Notification}
      (stale : l.state = .stopped ∨ l.concerns generation = false) :
      Move env l (.notified generation n) l [] none
  /-- A session is lost that nothing hangs on. -/
  | lost {generation : Nat} (on : l.state ≠ .stopped) (ours : l.concerns generation = true)
      (quiet : l.state ≠ .active) (unattempted : l.state ≠ .connecting) :
      Move env l (.notified generation .lost) { l with layer := none } [] none
  /-- The session is gone, or the attempt, and with it what hangs on it. -/
  | severed {generation : Nat} {n : Notification} (on : l.state ≠ .stopped)
      (ours : l.concerns generation = true)
      (bears : n = .lost → l.state = .active ∨ l.state = .connecting) :
      Move env l (.notified generation n) { l with layer := none }.bereft
        (retirements l.services.running) none

/-! ## Each event makes a move -/

@[simp] theorem recover_life (l : Lifecycle) : l.recover.life = l.bereft := by
  simp only [recover, Course.andThen_life, closeServices_life, enter_life]
  rfl

@[simp] theorem recover_error (l : Lifecycle) : l.recover.error = none := by
  simp only [recover, Course.andThen_error, enter_error]

@[simp] theorem recover_deeds (l : Lifecycle) : l.recover.deeds = retirements l.services.running := by
  simp only [recover, Course.andThen_deeds, closeServices_deeds, enter_deeds, List.append_nil]

theorem deactivate_spec (env : Surroundings) {l : Lifecycle} {m : Model} (on : l.state ≠ .stopped)
    (off : m.active = false) :
    Move env l (.reconfigure m) (l.deactivate m).life (l.deactivate m).deeds (l.deactivate m).error := by
  have h : Move env l _ _ _ _ := .deactivated on off
  unfold deactivate
  simp only [Course.andThen_life, Course.andThen_deeds, Course.andThen_error, dismantle_life,
    dismantle_deeds, enter_life, enter_deeds, List.nil_append]
  cases hs : l.shutdownAwaited with
  | true =>
    rw [hs] at h
    simpa [cleared, halted, hs, LifecycleEffect.deeds_nil] using h
  | false =>
    rw [hs] at h
    simpa [cleared, halted, hs] using h

theorem rest_spec (env : Surroundings) {l : Lifecycle} {m : Model} (on : l.state ≠ .stopped)
    (active : m.active = true) (idle : m.isIdle = true) :
    Move env l (.reconfigure m) (l.rest m).life (l.rest m).deeds (l.rest m).error := by
  have h : Move env l _ _ _ _ := .rested on active idle
  unfold rest
  simp only [Course.andThen_life, Course.andThen_deeds, Course.andThen_error, closeServices_life,
    closeServices_deeds, enter_life, enter_deeds, Course.deeds_mk, deeds_nil, List.append_nil]
  exact h

theorem connect_spec (env : Surroundings) {l : Lifecycle} {m : Model} (on : l.state ≠ .stopped)
    (active : m.active = true) (busy : m.isIdle = false) (unsuited : ¬ l.Suits m) :
    Move env l (.reconfigure m) ({ l with model := some m }.connect env m).life
      ({ l with model := some m }.connect env m).deeds
      ({ l with model := some m }.connect env m).error := by
  unfold connect
  simp only [Course.andThen_life, Course.andThen_deeds, Course.andThen_error, dismantle_life,
    dismantle_deeds]
  cases ht : env.trust m with
  | error e =>
    have h := Move.untrusted on active busy unsuited ht
    simp only [Course.deeds_mk, Course.deeds_effects, Course.andThen_deeds, tell_life, tell_deeds,
      enter_life, enter_deeds, List.append_nil]
    exact h
  | ok trust =>
    have h := Move.dialled on active busy unsuited ht
    simp only [Course.andThen_life, Course.andThen_deeds, Course.andThen_error, tell_life, tell_deeds,
      enter_life, enter_deeds, Course.deeds_mk, deeds_openSession, deeds_nil, List.nil_append]
    exact h

theorem apply_spec (env : Surroundings) {l : Lifecycle} {m : Model} (on : l.state ≠ .stopped)
    (active : m.active = true) (busy : m.isIdle = false) :
    Move env l (.reconfigure m) (l.apply env m).life (l.apply env m).deeds (l.apply env m).error := by
  unfold apply
  simp only
  -- the attempt suits the model; or the held session does; or another session is needed
  split
  · rename_i h
    exact .kept active busy (.inl h) (.inl h.1)
  · rename_i hc
    split
    · rename_i h
      obtain ⟨layer, hl, hs⟩ := (Option.any_eq_true _ _).1 h.2
      split
      · rename_i hd
        have := serve_spec env m true (l := { l with model := some m }) hl
        exact .served active busy h.1 hl hs (.inl hd) (by rw [hd]; exact this)
      · rename_i hd
        split
        · rename_i hv
          have := serve_spec env m false (l := { l with model := some m }) hl
          exact .served active busy h.1 hl hs (.inr hv) (by
            rw [Bool.not_eq_true] at hd; rw [hd]; exact this)
        · rename_i hv
          exact .kept active busy (.inr h) (.inr fun hor => hor.elim hd hv)
    · rename_i h
      exact connect_spec env on active busy fun hor => hor.elim hc h

theorem reconfigure_spec (env : Surroundings) (l : Lifecycle) (m : Model) :
    Move env l (.reconfigure m) (l.reconfigure env m).life (l.reconfigure env m).deeds
      (l.reconfigure env m).error := by
  unfold reconfigure
  rw [tell_andThen_life, tell_andThen_deeds, tell_andThen_error]
  by_cases ended : l.state = .stopped
  · rw [if_pos ended]
    exact .ignored ended
  rw [if_neg ended]
  cases active : m.active with
  | false => exact deactivate_spec env ended active
  | true =>
    cases idle : m.isIdle with
    | true => exact rest_spec env ended active idle
    | false => exact apply_spec env ended active idle

theorem close_spec (env : Surroundings) (l : Lifecycle) :
    Move env l .close l.close.life l.close.deeds l.close.error := by
  unfold close
  by_cases ended : l.state = .stopped
  · rw [if_pos ended]
    exact .ended ended
  · rw [if_neg ended]
    simp only [Course.andThen_life, Course.andThen_deeds, Course.andThen_error, dismantle_life,
      dismantle_deeds, enter_life, enter_deeds, enter_error, List.append_nil]
    exact .closed ended

theorem accept_of_none (env : Surroundings) {l : Lifecycle} (generation : Nat) (s : Session)
    (absent : l.model = none) :
    (l.accept env generation s).life = { l with state := .recovering } ∧
      (l.accept env generation s).deeds = [.closeSession s] ∧
      (l.accept env generation s).error = none := by
  unfold accept
  rw [absent]
  simp only [Course.andThen_life, Course.andThen_deeds, Course.andThen_error, enter_life, enter_deeds,
    enter_error, Course.deeds_mk, deeds_closeSession, deeds_nil, List.append_nil, absent, and_self]

theorem accept_of_some (env : Surroundings) {l : Lifecycle} {m : Model} (generation : Nat) (s : Session)
    {layer : BrokerLayer} (asked : l.model = some m)
    (taken : layer = { session := s, broker := m.broker, truststore := m.truststore, generation }) :
    (l.accept env generation s).error = none ∧
      ∃ e, Serve env m true { l with layer := some layer } layer (l.accept env generation s).life
        (l.accept env generation s).deeds e := by
  have h := serve_spec env m true (l := { l with layer := some layer }) rfl
  subst taken
  unfold accept
  rw [asked] at h ⊢
  simp only
  split
  · rename_i he
    rw [tell_andThen_life, tell_andThen_deeds, asked]
    exact ⟨he, _, h⟩
  · rw [Course.andThen_life, Course.andThen_deeds, Course.andThen_error, tell_life, tell_deeds, tell_error,
      tell_andThen_life, tell_andThen_deeds, List.append_nil, asked]
    exact ⟨rfl, _, h⟩

theorem accept_spec (env : Surroundings) {l : Lifecycle} (s : Session) (connecting : l.state = .connecting) :
    Move env l (.opened l.generation (.ok s)) ({ l with connecting := none }.accept env l.generation s).life
      ({ l with connecting := none }.accept env l.generation s).deeds
      ({ l with connecting := none }.accept env l.generation s).error := by
  rcases Option.eq_none_or_eq_some l.model with hm | ⟨m, hm⟩
  · obtain ⟨h1, h2, h3⟩ := accept_of_none env (l := { l with connecting := none }) l.generation s hm
    rw [h1, h2, h3]
    exact .unasked connecting hm
  · obtain ⟨h1, e, h2⟩ := accept_of_some env (l := { l with connecting := none }) l.generation s hm rfl
    rw [h1]
    exact .accepted connecting hm rfl h2

theorem opened_spec (env : Surroundings) (l : Lifecycle) (generation : Nat)
    (result : Except ConnectionError Session) :
    Move env l (.opened generation result) (l.opened env generation result).life
      (l.opened env generation result).deeds (l.opened env generation result).error := by
  unfold opened
  by_cases stale : generation ≠ l.generation ∨ l.state ≠ .connecting
  · rw [if_pos stale]
    have h : Move env l (.opened generation result) _ _ _ := .discarded stale
    cases result with
    | error e => exact h
    | ok s => exact h
  · rw [if_neg stale]
    simp only [not_or, not_not] at stale
    obtain ⟨rfl, connecting⟩ := stale
    cases result with
    | error e =>
      simp only [Course.andThen_life, Course.andThen_deeds, Course.andThen_error, tell_life, tell_deeds,
        enter_life, enter_deeds, enter_error, List.append_nil]
      exact .failed connecting
    | ok s => exact accept_spec env s connecting

theorem notified_spec (env : Surroundings) (l : Lifecycle) (generation : Nat) (n : Notification) :
    Move env l (.notified generation n) (l.notified generation n).life (l.notified generation n).deeds
      (l.notified generation n).error := by
  unfold notified
  by_cases stale : l.state = .stopped ∨ l.concerns generation = false
  · rw [if_pos stale]
    exact .unheard stale
  rw [if_neg stale]
  simp only [not_or, Bool.not_eq_false] at stale
  obtain ⟨on, ours⟩ := stale
  cases n with
  | lost =>
    rw [tell_andThen_life, tell_andThen_deeds, tell_andThen_error]
    by_cases bears : l.state = .active ∨ l.state = .connecting
    · rw [if_pos bears, recover_life, recover_deeds, recover_error]
      exact .severed on ours fun _ => bears
    · rw [if_neg bears]
      simp only [not_or] at bears
      exact .lost on ours bears.1 bears.2
  | closed =>
    rw [tell_andThen_life, tell_andThen_deeds, tell_andThen_error, recover_life, recover_deeds,
      recover_error]
    exact .severed on ours fun h => nomatch h

/-- Every step is a move. -/
theorem move_step (env : Surroundings) (l : Lifecycle) (ev : LifecycleEvent) :
    Move env l ev (l.step env ev).life (l.step env ev).deeds (l.step env ev).error := by
  cases ev with
  | reconfigure m => exact reconfigure_spec env l m
  | close => exact close_spec env l
  | opened generation result => exact opened_spec env l generation result
  | notified generation n => exact notified_spec env l generation n

end Lifecycle

end TopicRelay.Control
