/-
The lifecycle of the adapter. It takes models, completions of connection attempts and notifications
of the broker one after the other, and owns what a model needs: the broker session, the HTTP layer
and the running services. Dismantling begins a new generation; a completion or a notification of
another generation than the current one changes nothing.
-/
import TopicRelay.Broker.Connection
import TopicRelay.Broker.Session
import TopicRelay.Content.PollError
import TopicRelay.Control.Services

namespace TopicRelay.Control

open TopicRelay.Broker TopicRelay.Config TopicRelay.Content TopicRelay.Log

/-- Where the adapter stands. -/
inductive AdapterState where
  /-- There is nothing to poll; a broker session may be kept. -/
  | standby
  /-- A broker session is being opened. -/
  | connecting
  /-- A broker session is open, and the services run. -/
  | active
  /-- The broker session was lost or could not be opened; a new model is awaited. -/
  | recovering
  /-- The end. -/
  | stopped
  deriving Repr, DecidableEq, Inhabited

/-- The name of a state. -/
def AdapterState.name : AdapterState → String
  | .standby => "STANDBY"
  | .connecting => "CONNECTING"
  | .active => "ACTIVE"
  | .recovering => "RECOVERING"
  | .stopped => "STOPPED"

/-- Why a model could not be applied in full. -/
inductive LifecycleError where
  | trust (e : Trust.TrustError)
  | httpLayer (e : PollError)
  | services (failures : List StartFailure)
  deriving Repr, DecidableEq, Inhabited

/-- The text of an error. -/
def LifecycleError.message : LifecycleError → String
  | .trust e => "unable to build TLS context: " ++ e.message
  | .httpLayer e => "unable to build HTTP layer: " ++ e.message
  | .services failures => startFailuresMessage failures

/-- A connection that is being opened. -/
structure Attempt where
  broker : BrokerConfig
  truststore : Option String
  deriving Repr, DecidableEq, Inhabited

/-- The broker session that is held. -/
structure BrokerLayer where
  session : Session
  broker : BrokerConfig
  truststore : Option String
  generation : Nat
  deriving Repr, DecidableEq, Inhabited

/-- Whether an attempt is what a model needs. -/
def Attempt.serves (a : Attempt) (m : Model) : Bool :=
  a.broker == m.broker && a.truststore == m.truststore

/-- Whether a held session is what a model needs. -/
def BrokerLayer.serves (l : BrokerLayer) (m : Model) : Bool :=
  l.broker == m.broker && l.truststore == m.truststore

/-- The lifecycle of the adapter. -/
structure Lifecycle where
  state : AdapterState := .standby
  model : Option Model := none
  generation : Nat := 0
  trust : Option Trust.Context := none
  connecting : Option Attempt := none
  layer : Option BrokerLayer := none
  http : Option HttpLayer := none
  /-- How many HTTP layers have been built. -/
  layersBuilt : Nat := 0
  /-- Whether somebody waits to be told of the deactivation. -/
  shutdownAwaited : Bool := false
  /-- Whether service and poll events are reported. -/
  observed : Bool := true
  services : Services := { owner := .lifecycle }
  deriving Repr, DecidableEq, Inhabited

/-- What the lifecycle finds outside when it applies a model. -/
structure Surroundings where
  /-- The trust that a model asks for, as far as it can be loaded. -/
  trust : Model → Except Trust.TrustError (Option Trust.Context)
  /-- Why no HTTP layer can be built, if none can. -/
  httpFailure : Option PollError

/-- What a change of the lifecycle brings about. -/
inductive LifecycleEffect where
  | log (e : Entry)
  | services (e : ServicesEffect)
  | httpBuilt (l : HttpLayer)
  | openSession (generation : Nat) (broker : BrokerConfig) (trust : Option Trust.Context)
  | closeSession (s : Session)
  | shutdown
  deriving Repr, DecidableEq

/-- What the lifecycle takes. -/
inductive LifecycleEvent where
  | reconfigure (m : Model)
  | close
  /-- An attempt of a generation ends. -/
  | opened (generation : Nat) (result : Except ConnectionError Session)
  /-- The broker reports about the session of a generation. -/
  | notified (generation : Nat) (n : Notification)
  deriving Repr, Inhabited

/-- Where an event leads: the lifecycle after it, what it brings about, and why it failed. -/
structure Course where
  life : Lifecycle
  effects : List LifecycleEffect := []
  error : Option LifecycleError := none
  deriving Repr, DecidableEq

/-- Goes on from a course. -/
def Course.andThen (c : Course) (f : Lifecycle → Course) : Course :=
  let d := f c.life
  { d with effects := c.effects ++ d.effects }

namespace Lifecycle

/-- An entry of the lifecycle. -/
def entry (level : Level) (event : String) (fields : List (String × Field)) : Entry :=
  { level, event, component := "adapter_lifecycle", fields }

/-- Writes an entry. -/
def tell (level : Level) (event : String) (fields : List (String × Field)) (l : Lifecycle) :
    Course :=
  { life := l, effects := [.log (entry level event fields)] }

/-- Goes to another state. -/
def enter (next : AdapterState) (l : Lifecycle) : Course :=
  if l.state = next then { life := l }
  else
    Course.andThen
      (l.tell .info "lifecycle_transition"
        [("from_state", .text l.state.name), ("to_state", .text next.name)])
      fun l => { life := { l with state := next } }

/-- Retires every running service. -/
def closeServices (l : Lifecycle) : Course :=
  let (services, effects) := l.services.close
  { life := { l with services }, effects := effects.map .services }

/-- Gives up what the current generation owns and begins the next one. -/
def dismantle (l : Lifecycle) : Course :=
  l.closeServices.andThen fun l =>
    { life := { l with
        http := none
        connecting := none
        generation := l.generation + 1
        layer := none }
      effects := (l.layer.map fun layer => .closeSession layer.session).toList }

/-! ## Applying a model -/

/-- Replaces the services by those of a model, if there is a session and an HTTP layer. -/
def applyServices (m : Model) (l : Lifecycle) : Course :=
  match l.layer, l.http with
  | some layer, some http =>
    let ctx : Context := { client := layer.session.client, http, observed := l.observed }
    let (services, failures, effects) := l.services.reconfigure ctx m
    let applied : Course :=
      { life := { l with services }, effects := effects.map .services }
    { applied.andThen (enter .active) with
      error := if failures.isEmpty then none else some (.services failures) }
  | _, _ => { life := l }

/-- Builds an HTTP layer if one is needed and applies the services of a model. -/
def serve (env : Surroundings) (m : Model) (rebuild : Bool) (l : Lifecycle) : Course :=
  if rebuild || l.http.isNone then
    match env.httpFailure with
    | none =>
      let http : HttpLayer :=
        { number := l.layersBuilt, security := m.security, trust := l.trust }
      let built : Course :=
        { life := { l with http := some http, layersBuilt := l.layersBuilt + 1 }
          effects := [.httpBuilt http, .log (entry .debug "http_layer_create" [])] }
      built.andThen (applyServices m)
    | some err =>
      let left := (l.tell .warn "http_layer_failed" [("err", .text err.message)]).andThen fun l =>
        l.closeServices.andThen fun l => enter .recovering { l with http := none }
      { left with error := some (.httpLayer err) }
  else l.applyServices m

/-- Gives everything up and opens a session anew. -/
def connect (env : Surroundings) (m : Model) (l : Lifecycle) : Course :=
  l.dismantle.andThen fun l =>
    match env.trust m with
    | .error err =>
      let left := (l.tell .warn "tls_context_failed" [("err", .text err.message)]).andThen fun l =>
        enter .recovering { l with trust := none }
      { left with error := some (.trust err) }
    | .ok trust =>
      let attempt : Attempt := { broker := m.broker, truststore := m.truststore }
      (enter .connecting { l with trust, connecting := some attempt }).andThen fun l =>
        (l.tell .info "broker_connect_start"
          [("broker", .text m.broker.address), ("generation", .count l.generation)]).andThen
          fun l => { life := l, effects := [.openSession l.generation m.broker l.trust] }

/-- Whether the services of two models authenticate differently. -/
def differInSecurity (previous : Option Model) (m : Model) : Bool :=
  match previous with
  | none => true
  | some p => p.security != m.security

/-- Whether the services of two models differ. -/
def differInServices (previous : Option Model) (m : Model) : Bool :=
  match previous with
  | none => true
  | some p => p.services != m.services

/-- Deactivates the adapter. -/
def deactivate (m : Model) (l : Lifecycle) : Course :=
  l.dismantle.andThen fun l =>
    (l.enter .stopped).andThen fun l =>
      let l := { l with model := some m }
      if l.shutdownAwaited then
        Course.andThen (l.tell .info "lifecycle_shutdown" []) fun l =>
          { life := { l with shutdownAwaited := false }, effects := [.shutdown] }
      else { life := l }

/-- Rests, as there is nothing to poll. A connection that is being opened is abandoned. -/
def rest (m : Model) (l : Lifecycle) : Course :=
  l.closeServices.andThen fun l =>
    let abandoned := l.connecting.isSome
    let l := { l with
      http := none
      connecting := none
      generation := if abandoned then l.generation + 1 else l.generation }
    (l.enter .standby).andThen fun l => { life := { l with model := some m } }

/-- Polls the services of a model, changing as little as its difference to the previous one asks
for. -/
def apply (env : Surroundings) (m : Model) (l : Lifecycle) : Course :=
  let previous := l.model
  let l := { l with model := some m }
  if l.state = .connecting ∧ l.connecting.any (·.serves m) then
    l.tell .debug "lifecycle_reconfigure" [("state", .text l.state.name)]
  else if l.state = .active ∧ l.layer.any (·.serves m) then
    if differInSecurity previous m then l.serve env m true
    else if differInServices previous m then l.serve env m false
    else l.tell .debug "lifecycle_reconfigure" [("state", .text l.state.name)]
  else l.connect env m

/-- Takes a model. -/
def reconfigure (env : Surroundings) (m : Model) (l : Lifecycle) : Course :=
  let begun := l.tell .info "lifecycle_reconfigure"
    [("state", .text l.state.name), ("active", .flag m.active),
      ("services", .count m.services.length), ("broker", .text m.broker.address)]
  begun.andThen fun l =>
    if l.state = .stopped then l.tell .debug "lifecycle_ignored" [("reason", .text "stopped")]
    else if !m.active then l.deactivate m
    else if m.isIdle then l.rest m
    else l.apply env m

/-- Stops everything. -/
def close (l : Lifecycle) : Course :=
  if l.state = .stopped then { life := l }
  else l.dismantle.andThen (enter .stopped)

/-! ## The broker session -/

/-- Closes the session of an attempt that is no longer wanted. -/
def discard (generation : Nat) (result : Except ConnectionError Session) (l : Lifecycle) :
    Course :=
  match result with
  | .error _ => { life := l }
  | .ok session =>
    let reason := if generation = l.generation then "not_connecting" else "stale_generation"
    (l.tell .debug "broker_session_discarded"
      [("session_id", .text session.id), ("generation", .count generation),
        ("reason", .text reason)]).andThen
      fun l => { life := l, effects := [.closeSession session] }

/-- Takes over an opened session. -/
def accept (env : Surroundings) (generation : Nat) (session : Session) (l : Lifecycle) : Course :=
  match l.model with
  | none =>
    Course.andThen { life := l, effects := [.closeSession session] } (enter .recovering)
  | some m =>
    let layer : BrokerLayer :=
      { session, broker := m.broker, truststore := m.truststore, generation }
    let taken := (l.tell .info "broker_connect_ok"
      [("session_id", .text session.id), ("broker", .text m.broker.address),
        ("generation", .count generation)]).andThen
      fun l => serve env m true { l with layer := some layer }
    match taken.error with
    | none => taken
    | some err =>
      taken.andThen (tell .warn "services_reconfigure_failed" [("err", .text err.message)])

/-- Takes the result of an attempt. -/
def opened (env : Surroundings) (generation : Nat) (result : Except ConnectionError Session)
    (l : Lifecycle) : Course :=
  if generation ≠ l.generation ∨ l.state ≠ .connecting then l.discard generation result
  else
    let l := { l with connecting := none }
    match result with
    | .error err =>
      (l.tell .warn "broker_connect_failed"
        [("generation", .count generation), ("err", .text err.message)]).andThen
        (enter .recovering)
    | .ok session => l.accept env generation session

/-- Whether a notification is about the held session or the current attempt. -/
def concerns (generation : Nat) (l : Lifecycle) : Bool :=
  l.layer.any (·.generation == generation)
    || (l.connecting.isSome && l.generation == generation)

/-- Gives up what hangs on a session that is gone, and waits for a model. -/
def recover (l : Lifecycle) : Course :=
  l.closeServices.andThen fun l =>
    enter .recovering { l with http := none, connecting := none }

/-- Takes a report of the broker. A session that is gone is not closed. -/
def notified (generation : Nat) (n : Notification) (l : Lifecycle) : Course :=
  if l.state = .stopped ∨ l.concerns generation = false then
    l.tell .debug "lifecycle_ignored"
      [("generation", .count generation), ("session_event", .text n.name),
        ("reason", .text "stale_generation")]
  else
    let fields := [("state", .text l.state.name), ("generation", .count generation)]
    match n with
    | .lost =>
      (l.tell .warn "broker_session_lost" fields).andThen fun l =>
        let l := { l with layer := none }
        if l.state = .active ∨ l.state = .connecting then l.recover else { life := l }
    | .closed =>
      (l.tell .warn "broker_session_closed" fields).andThen fun l =>
        recover { l with layer := none }

/-- Takes an event. -/
def step (env : Surroundings) (l : Lifecycle) : LifecycleEvent → Course
  | .reconfigure m => l.reconfigure env m
  | .close => l.close
  | .opened generation result => l.opened env generation result
  | .notified generation n => l.notified generation n

end Lifecycle

end TopicRelay.Control
