/-
The running services of a model. A new model replaces them all: every running service is retired,
then every service of the model is launched, apart from those whose poll period is no period.
-/
import TopicRelay.Broker.Session
import TopicRelay.Log.Entry
import TopicRelay.Polling.Error
import TopicRelay.Polling.Session
import TopicRelay.Publication.Error

namespace TopicRelay.Control

open TopicRelay.Config TopicRelay.Log TopicRelay.Polling TopicRelay.Publication

/-- Who runs a session. -/
inductive Owner where
  | lifecycle
  | manager
  /-- Nobody but a name. -/
  | named
  deriving Repr, DecidableEq, Inhabited

/-- The identity of a session: its owner and its number among the sessions of that owner. -/
structure SessionKey where
  owner : Owner
  number : Nat
  deriving Repr, DecidableEq, Inhabited

/-- What requests go through: built for the security settings of a model and for a trust. -/
structure HttpLayer where
  number : Nat
  security : List (String × SecurityConfig)
  trust : Option Trust.Context
  deriving Repr, DecidableEq, Inhabited

/-- What services run against. -/
structure Context where
  client : Broker.Client
  http : HttpLayer
  /-- Whether service and poll events are reported. -/
  observed : Bool
  deriving Repr, DecidableEq, Inhabited

/-- A running service. -/
structure Running where
  config : ServiceConfig
  session : SessionKey
  context : Context
  deriving Repr, DecidableEq, Inhabited

/-- A service that could not be started. -/
structure StartFailure where
  service : String
  error : ServiceError
  deriving Repr, DecidableEq, Inhabited

/-- The text of a failure. -/
def StartFailure.message (f : StartFailure) : String :=
  f.service ++ ": " ++ f.error.message

/-- The text of all failures of one model. -/
def startFailuresMessage (failures : List StartFailure) : String :=
  toString failures.length ++ " service(s) failed to start: "
    ++ String.intercalate "; " (failures.map StartFailure.message)

/-- What a change of the running services brings about. -/
inductive ServicesEffect where
  | log (e : Entry)
  /-- A service ends: its session is stopped and its source removed. -/
  | retire (r : Running)
  /-- A service begins: it is announced, and its source is awaited. -/
  | launch (r : Running)
  deriving Repr, DecidableEq

/-- A single thing that is done to a service. -/
inductive Chore where
  /-- Its session is stopped. -/
  | stop (r : Running)
  /-- Its source is removed from the client to which it was added. -/
  | remove (r : Running)
  /-- It is added to its client, and a session is held for it. -/
  | launch (r : Running)
  deriving Repr, DecidableEq

/-- What is done for an effect, one thing after the other. -/
def ServicesEffect.chores : ServicesEffect → List Chore
  | .log _ => []
  | .retire r => [.stop r, .remove r]
  | .launch r => [.launch r]

/-- The running services, in the order of the model. -/
structure Services where
  owner : Owner
  running : List Running := []
  nextNumber : Nat := 0
  deriving Repr, DecidableEq, Inhabited

namespace Services

/-- The names of the running services. -/
def names (s : Services) : List String :=
  s.running.map fun r => r.config.name

/-- Retires every running service. -/
def close (s : Services) : Services × List ServicesEffect :=
  ({ s with running := [] }, s.running.map .retire)

/-- An entry of the service manager. -/
def entry (level : Level) (event : String) (fields : List (String × Field)) : Entry :=
  { level, event, component := "service_manager", fields }

/-- The entry that a service has ended, whether or not its source could be removed. -/
def removedEntry (r : Running) : Except PublishingError Unit → Entry
  | .ok _ => entry .info "service_close" [("service", .text r.config.name)]
  | .error e =>
    entry .warn "service_remove_failed"
      [("service", .text r.config.name), ("err", .text e.message)]

/-- Launches the services of a model one after the other. -/
def launchAll (ctx : Context) (s : Services) :
    List ServiceConfig → Services × List StartFailure × List ServicesEffect
  | [] => (s, [], [])
  | config :: rest =>
    if checkPollPeriod config then
      let r : Running :=
        { config, session := { owner := s.owner, number := s.nextNumber }, context := ctx }
      let (s₁, failures, effects) :=
        launchAll ctx
          { s with running := s.running ++ [r], nextNumber := s.nextNumber + 1 } rest
      (s₁, failures, .launch r :: effects)
    else
      let error := ServiceError.invalidPollPeriod config.name config.pollPeriodMs.toNat
      let failed := entry .warn "service_start_failed"
        [("service", .text config.name), ("err", .text error.message)]
      let (s₁, failures, effects) := launchAll ctx s rest
      (s₁, { service := config.name, error } :: failures, .log failed :: effects)

/-- The entry that ends a reconfiguration. -/
def reconfigured (running failed : Nat) : Entry :=
  if failed = 0 then entry .info "services_reconfigure_ok" [("running", .count running)]
  else
    entry .warn "services_reconfigure_failed"
      [("running", .count running), ("failed", .count failed)]

/-- Replaces the running services by those of a model. -/
def reconfigure (ctx : Context) (s : Services) (m : Model) :
    Services × List StartFailure × List ServicesEffect :=
  let begun := entry .info "services_reconfigure_start"
    [("previous", .count s.running.length), ("next", .count m.services.length)]
  let (s₁, retired) := s.close
  let (s₂, failures, launched) := s₁.launchAll ctx m.services
  (s₂, failures,
    .log begun :: retired ++ launched
      ++ [.log (reconfigured s₂.running.length failures.length)])

end Services

end TopicRelay.Control
