/-
The world of a simulation: the adapter with scripted endpoints, the stand-in broker and the log-only
broker, on a clock that stands still while work is done. This module holds the state, what the update
sources bring about, and publishing.
-/
import TopicRelay.Broker.LogOnly
import TopicRelay.Polling.Handler
import TopicRelay.Polling.Metrics
import TopicRelay.Simulation.Endpoints
import TopicRelay.Simulation.History
import TopicRelay.Simulation.StandInBroker
import TopicRelay.Simulation.Work
import TopicRelay.Time.Agenda

namespace TopicRelay.Simulation

open TopicRelay.Broker TopicRelay.Config TopicRelay.Content TopicRelay.Control
open TopicRelay.Polling TopicRelay.Publication

/-- The poll events at which a session may be stopped. -/
inductive Trigger where
  | request
  | response
  | failure
  deriving Repr, DecidableEq, Inhabited

/-- The kind of a poll event. -/
def triggerOf : PollEvent → Trigger
  | .request => .request
  | .response _ => .response
  | .failure _ => .failure

/-- A session that somebody holds. -/
structure Member where
  key : SessionKey
  session : Polling.Session Handler
  client : Client
  /-- Whether its poll events are counted. -/
  counted : Bool
  /-- The poll event at which the session is stopped, once. -/
  stopOn : Option Trigger := none
  deriving Repr, Inhabited

/-- The world of a simulation. -/
structure World where
  now : Nat := 0
  history : History := []
  files : Files := {}
  endpoints : Endpoints := {}
  broker : StandInBroker := {}
  /-- Whether services of the stand-in broker become active at once. -/
  autoActivate : Bool := true
  /-- Whether the lifecycle uses the log-only broker. -/
  logOnly : Bool := false
  standIn : Registry Hook := .empty
  /-- The registries of the log-only sessions, by their numbers. -/
  logClients : List (Registry Hook) := []
  httpFails : Bool := false
  httpLayers : Nat := 0
  shutdowns : Nat := 0
  metrics : Metrics := {}
  members : List Member := []
  agenda : Time.Agenda Work := {}
  /-- The generations of the attempts to open a session, in order. -/
  attempts : List Nat := []
  lifecycle : Option Lifecycle := none
  feed : Option ModelFeed := none
  manager : Option Services := none
  /-- The sessions that are run by name. -/
  named : List (String × SessionKey) := []
  namedCount : Nat := 0
  deriving Inhabited

namespace World

/-- Adds to the history. -/
def record (h : Happening) (w : World) : World :=
  { w with history := (w.now, h) :: w.history }

/-- Writes a log entry. -/
def say (e : Log.Entry) (w : World) : World :=
  w.record (.logged e)

/-! ## Update sources -/

/-- The registry of a client. -/
def registry (w : World) : Client → Registry Hook
  | .standIn => w.standIn
  | .logOnly n => w.logClients[n]?.getD .empty

/-- The world with another registry for a client. -/
def setRegistry (c : Client) (r : Registry Hook) (w : World) : World :=
  match c with
  | .standIn => { w with standIn := r }
  | .logOnly n => { w with logClients := w.logClients.set n r }

/-- How a client treats a service that is added. -/
def policy (w : World) : Client → Policy
  | .standIn => { closesReplaced := false, activates := w.autoActivate }
  | .logOnly _ => LogOnly.policy

/-- Reports a change of a service to its listener. -/
def notify (h : Hook) (w : World) : World :=
  if h.observed then w.record (.notified h.occasion h.service.name) else w

/-- An entry of the starter of services. -/
def starterEntry (event : String) (s : ServiceConfig) (fields : List (String × Log.Field)) :
    Log.Entry :=
  { level := .info, event, component := "service_starter"
    fields := ("service", .text s.name) :: fields }

/-- Runs a hook: a service that becomes active is brought up. -/
def runHook (h : Hook) (w : World) : World :=
  match h.occasion with
  | .standby => (w.say (starterEntry "service_standby" h.service [])).notify h
  | .closed => (w.say (starterEntry "service_close" h.service [])).notify h
  | .active =>
    let w := (w.say (starterEntry "service_active" h.service [])).notify h
    { w with agenda := w.agenda.spawn (.pass (.ofService h.service h.session h.client)) }

/-- Lets what happened to sources take effect. -/
def heed (ns : List (Notice Hook)) (w : World) : World :=
  ns.foldl (fun w n =>
    match n with
    | .moved topicPath t => w.say (t.entry topicPath)
    | .ran h => w.runHook h) w

/-- Adds a service to a client: the number of its source. -/
def addSource (c : Client) (s : ServiceConfig) (w : World) : World × Nat :=
  let (r, n, told) := (w.registry c).add (w.policy c) s
  ((w.setRegistry c r).heed told, n)

/-- Attaches hooks to a source of a client. -/
def attach (c : Client) (n : Nat) (hooks : List (Occasion × Hook)) (w : World) : World :=
  let (r, told) := (w.registry c).attachAll n hooks
  (w.setRegistry c r).heed told

/-- Performs an action on a source of a client. -/
def actOn (c : Client) (n : Nat) (a : Action) (w : World) : World × Except PublishingError Unit :=
  let (r, told, refused) := (w.registry c).call n (.act a)
  ((w.setRegistry c r).heed told,
    match refused with
    | some e => .error e
    | none => .ok ())

/-- Removes a service from a client. -/
def removeService (c : Client) (s : ServiceConfig) (w : World) :
    World × Except PublishingError Unit :=
  let w := match c with
    | .standIn => w.record (.removalAsked s.name)
    | .logOnly _ => w
  let (r, told, result) := (w.registry c).remove s.name
  let w := (w.setRegistry c r).heed told
  match c, result with
  | .logOnly _, .ok _ => (w.say (LogOnly.removedEntry s.name), result)
  | _, _ => (w, result)

/-! ## Topics -/

/-- Announces a service to the topic management of a client. -/
def announce (c : Client) (s : ServiceConfig) (w : World) : World :=
  match c with
  | .standIn => w.record (.serviceAnnounced s.name)
  | .logOnly _ => w.say (LogOnly.announcedEntry s)

/-- Asks for the topic of an endpoint, seeded with a first value. -/
def createTopic (c : Client) (session : SessionKey) (s : ServiceConfig) (r : Resolved)
    (w : World) : World × Except TopicCreationError TopicCreation :=
  match c with
  | .logOnly _ => (w.say (LogOnly.topicEntry s r.pinned r.kind true), .ok .created)
  | .standIn =>
    (w.record (.topicAsked
      { session, service := s.name, endpoint := r.pinned, topicPath := s.topicPath r.pinned
        kind := r.kind, initial := r.initial }),
      w.broker.outcome r.pinned.name)

/-- Binds an endpoint to its topic, as long as its service is registered. -/
def bind (c : Client) (s : ServiceConfig) (e : EndpointConfig) (w : World) (kind : PayloadKind) :
    Except PublishingError Target :=
  if (w.registry c).isRegistered s.name then .ok (Target.of s e kind)
  else .error (.serviceNotActive s.name)

/-- Publishes a value. -/
def publish (c : Client) (session : Option SessionKey) (t : Target) (v : TopicValue) (w : World) :
    World × Except PublishingError Unit :=
  match t.check v with
  | .error e => (w, .error e)
  | .ok _ =>
    match c with
    | .standIn => (w.record (.published session t.topicPath v), .ok ())
    | .logOnly _ => (w.say (LogOnly.updatedEntry t v), .ok ())

end World

end TopicRelay.Simulation
