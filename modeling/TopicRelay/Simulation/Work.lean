/-
The work that tasks do, as far as it has gone.
-/
import TopicRelay.Control.ModelFeed
import TopicRelay.Control.Resolution
import TopicRelay.Publication.Source

namespace TopicRelay.Simulation

open TopicRelay.Broker TopicRelay.Config TopicRelay.Content TopicRelay.Control
open TopicRelay.Polling TopicRelay.Publication

/-- How far the bring-up of one endpoint has gone. -/
inductive Progress where
  | pending
  /-- The first request is under way; its answer comes at a known time. -/
  | requesting (due : Nat) (answer : Answer)
  | done (result : Except InitialisationError PayloadKind)
  deriving Repr, Inhabited

/-- Whether a bring-up has come to its end. -/
def Progress.isDone : Progress → Bool
  | .done _ => true
  | _ => false

/-- Whether a bring-up has succeeded. -/
def Progress.succeeded : Progress → Bool
  | .done (.ok _) => true
  | _ => false

/-- The bring-up of endpoints of one service. -/
structure Pass where
  service : ServiceConfig
  session : SessionKey
  client : Client
  /-- Whether the pass starts the session and brings up the whole service. -/
  wholeService : Bool
  begun : Bool := false
  parts : List (EndpointConfig × Progress)
  deriving Repr, Inhabited

/-- The bring-up of every endpoint of a service. -/
def Pass.ofService (s : ServiceConfig) (session : SessionKey) (client : Client) : Pass :=
  { service := s, session, client, wholeService := true
    parts := s.endpoints.map fun e => (e, .pending) }

/-- The bring-up of one endpoint. -/
def Pass.ofEndpoint (s : ServiceConfig) (e : EndpointConfig) (session : SessionKey)
    (client : Client) : Pass :=
  { service := s, session, client, wholeService := false, parts := [(e, .pending)] }

/-- How far an attempt to open a session has gone. -/
inductive OpenPhase where
  | fresh
  /-- The stand-in broker holds the attempt of a number back. -/
  | held (attempt : Nat)
  /-- The attempt of a number goes on. -/
  | released (attempt : Nat)
  deriving Repr, DecidableEq, Inhabited

/-- An attempt to open a broker session. -/
structure Opening where
  generation : Nat
  broker : BrokerConfig
  trust : Option Trust.Context
  phase : OpenPhase := .fresh
  deriving Repr, Inhabited

/-- What a task does. -/
inductive Work where
  /-- The cycle of an epoch of a session. -/
  | cycle (session : SessionKey) (epoch : Nat)
  /-- The recurring log of the poll metrics, which next writes at a known time, once that is set. -/
  | metrics (task : MetricsTask) (due : Option Nat)
  | pass (p : Pass)
  | opening (o : Opening)
  | notification (generation : Nat) (n : Notification)
  deriving Repr, Inhabited

/-- What hangs on the update source of a running service. -/
structure Hook where
  occasion : Occasion
  service : ServiceConfig
  session : SessionKey
  client : Client
  observed : Bool
  deriving Repr, DecidableEq, Inhabited

/-- The hooks of a running service. -/
def hooksOf (r : Running) : List (Occasion × Hook) :=
  [Occasion.standby, .active, .closed].map fun occasion =>
    (occasion,
      { occasion, service := r.config, session := r.session, client := r.context.client
        observed := r.context.observed })

end TopicRelay.Simulation
