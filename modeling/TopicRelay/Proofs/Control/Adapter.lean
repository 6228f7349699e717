/-
The adapter together with what goes on behind its lifecycle: the sessions that are being opened in the
background, the results that are yet to be delivered, and an account of what became of every session.
A turn is one thing that can happen: the surroundings change, a model or a closing is handed to the
lifecycle, the broker ends an attempt, the result of one is delivered, or the broker reports about a
generation. Turns come in any order, so a result may be delivered long after it was wanted.
-/
import TopicRelay.Proofs.Control.Generations

namespace TopicRelay.Control

open TopicRelay.Broker TopicRelay.Config TopicRelay.Content TopicRelay.Polling

/-! ## Sessions behind the lifecycle -/

/-- A session that was asked for. -/
structure Dial where
  generation : Nat
  broker : BrokerConfig
  trust : Option Trust.Context
  /-- The files at the time. -/
  files : Files
  deriving Repr, Inhabited

/-- A service that runs, with the session that was held when it was registered. -/
structure Registration where
  service : Running
  session : Option Session
  deriving Repr, DecidableEq, Inhabited

/-- The services that run, and those that ran while their session was closed. -/
structure Roll where
  serving : List Registration := []
  interrupted : List Running := []
  deriving Repr, DecidableEq, Inhabited

/-- Enters an effect into the roll while a session is held. -/
def Roll.note (held : Option Session) (roll : Roll) : LifecycleEffect → Roll
  | .services (.launch r) => { roll with serving := roll.serving ++ [{ service := r, session := held }] }
  | .services (.retire r) => { roll with serving := roll.serving.filter fun x => x.service ≠ r }
  | .closeSession s =>
    { roll with
      interrupted := roll.interrupted ++
        (roll.serving.filter fun x => x.session = some s).map (·.service) }
  | _ => roll

/-- The sessions that are closed. -/
def LifecycleEffect.closes (es : List LifecycleEffect) : List Session :=
  es.filterMap fun
    | .closeSession s => some s
    | _ => none

/-- The HTTP layers that are built. -/
def LifecycleEffect.builds (es : List LifecycleEffect) : List HttpLayer :=
  es.filterMap fun
    | .httpBuilt http => some http
    | _ => none

/-- The sessions that are asked for. -/
def LifecycleEffect.dials (files : Files) (es : List LifecycleEffect) : List Dial :=
  es.filterMap fun
    | .openSession generation broker trust => some { generation, broker, trust, files }
    | _ => none

namespace Lifecycle

/-- The session that is held. -/
def held (l : Lifecycle) : Option Session :=
  l.layer.map (·.session)

/-- The held session, if an event reports it lost or closed. -/
def reported (l : Lifecycle) : LifecycleEvent → List Session
  | .notified generation _ =>
    ((l.layer.filter fun layer => layer.generation == generation).map (·.session)).toList
  | _ => []

end Lifecycle

/-! ## The adapter -/

/-- The adapter and what goes on behind its lifecycle. -/
structure Adapter where
  life : Lifecycle
  files : Files := {}
  httpFailure : Option PollError := none
  /-- The models that were handed over, in order. -/
  models : List Model := []
  /-- The sessions that were asked for, in order. -/
  dials : List Dial := []
  /-- Those that the broker is opening. -/
  waiting : List Dial := []
  /-- Those that the broker has opened, or failed to, with results that are yet to be delivered. -/
  undelivered : List (Dial × Except ConnectionError Session) := []
  /-- The sessions that were opened, in order. -/
  sessions : List Session := []
  /-- The sessions that the lifecycle has closed. -/
  closed : List Session := []
  /-- The sessions that were held when they were reported lost or closed. -/
  gone : List Session := []
  /-- The HTTP layers that were built, each with the model of the time. -/
  built : List (Option Model × HttpLayer) := []
  roll : Roll := {}
  deriving Inhabited

/-- What can happen next. -/
inductive Turn where
  /-- The files change. -/
  | files (fs : Files)
  /-- From now on HTTP layers cannot be built for a reason, or can be. -/
  | http (failure : Option PollError)
  | reconfigure (m : Model)
  | close
  /-- The broker ends one of the attempts it is at. -/
  | answer (n : Nat) (answer : Except ConnectionError (String × Client))
  /-- One of the results is delivered. -/
  | deliver (n : Nat)
  | notify (generation : Nat) (n : Notification)
  deriving Inhabited

namespace Adapter

/-- An adapter to which nothing has happened. -/
def fresh (shutdownAwaited observed : Bool) : Adapter :=
  { life := Lifecycle.fresh shutdownAwaited observed }

/-- What the lifecycle finds. -/
def surroundings (a : Adapter) : Surroundings :=
  { trust := Trust.Context.ofModel a.files, httpFailure := a.httpFailure }

/-- Hands an event to the lifecycle and lets its effects take place. -/
def drive (ev : LifecycleEvent) (a : Adapter) : Adapter :=
  let c := a.life.step a.surroundings ev
  { a with
    life := c.life
    dials := a.dials ++ LifecycleEffect.dials a.files c.effects
    waiting := a.waiting ++ LifecycleEffect.dials a.files c.effects
    closed := a.closed ++ LifecycleEffect.closes c.effects
    gone := a.gone ++ a.life.reported ev
    built := a.built ++ (LifecycleEffect.builds c.effects).map fun http => (c.life.model, http)
    roll := c.effects.foldl (Roll.note c.life.held) a.roll }

/-- The session that the broker opens for an attempt. -/
def sessionFor (a : Adapter) (d : Dial) (id : String) (client : Client) : Session :=
  { id, number := a.sessions.length, client, broker := d.broker, trust := d.trust }

/-- The broker ends one of the attempts it is at. -/
def answer (n : Nat) (result : Except ConnectionError (String × Client)) (a : Adapter) : Adapter :=
  match a.waiting[n]? with
  | none => a
  | some d =>
    match result with
    | .error e =>
      { a with waiting := a.waiting.eraseIdx n, undelivered := a.undelivered ++ [(d, .error e)] }
    | .ok (id, client) =>
      { a with
        waiting := a.waiting.eraseIdx n
        undelivered := a.undelivered ++ [(d, .ok (a.sessionFor d id client))]
        sessions := a.sessions ++ [a.sessionFor d id client] }

/-- One of the results is delivered to the lifecycle. -/
def deliver (n : Nat) (a : Adapter) : Adapter :=
  match a.undelivered[n]? with
  | none => a
  | some (d, result) =>
    { a with undelivered := a.undelivered.eraseIdx n }.drive (.opened d.generation result)

/-- Takes a turn. -/
def take (a : Adapter) : Turn → Adapter
  | .files fs => { a with files := fs }
  | .http failure => { a with httpFailure := failure }
  | .reconfigure m => { a with models := a.models ++ [m] }.drive (.reconfigure m)
  | .close => a.drive .close
  | .answer n result => a.answer n result
  | .deliver n => a.deliver n
  | .notify generation n => a.drive (.notified generation n)

/-- Takes turns one after the other. -/
def run (a : Adapter) (turns : List Turn) : Adapter :=
  turns.foldl take a

/-- The sessions that were opened and are yet to be delivered. -/
def awaited (a : Adapter) : List Session :=
  a.undelivered.flatMap fun p => Lifecycle.carried p.2

/-! ## Turns -/

theorem answer_frame (a : Adapter) (n : Nat) (result : Except ConnectionError (String × Client)) :
    (a.answer n result).life = a.life ∧ (a.answer n result).models = a.models ∧
      (a.answer n result).gone = a.gone := by
  unfold answer
  cases a.waiting[n]? with
  | none => exact ⟨rfl, rfl, rfl⟩
  | some d => cases result <;> exact ⟨rfl, rfl, rfl⟩

/-- A delivery does nothing, or hands one of the results to the lifecycle. -/
theorem deliver_eq (a : Adapter) (n : Nat) :
    a.deliver n = a ∨ ∃ d result, a.undelivered[n]? = some (d, result) ∧
      a.deliver n = { a with undelivered := a.undelivered.eraseIdx n }.drive (.opened d.generation result) := by
  unfold deliver
  cases a.undelivered[n]? with
  | none => exact .inl rfl
  | some p => exact .inr ⟨p.1, p.2, rfl, rfl⟩

/-- What every turn keeps holds after every run. -/
theorem run_induction {P : Adapter → Prop} (step : ∀ a turn, P a → P (a.take turn)) {a : Adapter} (h : P a)
    (turns : List Turn) : P (a.run turns) := by
  unfold run
  induction turns generalizing a with
  | nil => exact h
  | cons turn rest ih => exact ih (step a turn h)

end Adapter

end TopicRelay.Control
