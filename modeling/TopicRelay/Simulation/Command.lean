/-
Commands to a simulation: how its surroundings behave, and what is asked of the adapter.
-/
import TopicRelay.Simulation.Run

namespace TopicRelay.Simulation

open TopicRelay.Broker TopicRelay.Config TopicRelay.Content TopicRelay.Control
open TopicRelay.Polling TopicRelay.Publication TopicRelay.Text

/-- Whose listener is told of a broker notification. -/
inductive Listener where
  /-- The listener given to an attempt, by its number. -/
  | attempt (number : Nat)
  /-- The listener of an opened session, by its number. -/
  | session (number : Nat)
  /-- The listener of the session opened last. -/
  | latest
  deriving Repr, DecidableEq, Inhabited

/-- A command. -/
inductive Command where
  | advance (ms : Nat)
  | script (endpoint : String) (once : List Answer) (repeated : Option Answer)
      (delay : Option Nat)
  | topicOutcome (endpoint : String) (outcome : Except TopicCreationError TopicCreation)
  | failHttp (fails : Bool)
  | holdOpens (holds : Bool)
  | releaseOpen
  | failOpens (failure : Option ConnectionError)
  | writeFile (name : String) (contents : Octets)
  | removeFile (name : String)
  | notify (listener : Listener) (n : Notification)
  | source (service : String) (a : Action)
  | addService (s : ServiceConfig)
  | removeService (s : ServiceConfig)
  | publish (s : ServiceConfig) (e : EndpointConfig) (kind : PayloadKind) (v : TopicValue)
  | newSession (name : String) (s : ServiceConfig) (stopOn : Option Trigger)
  | startSession (name : String)
  | addEndpoint (name : String) (e : EndpointConfig)
  | stopSession (name : String)
  | initialise (name : String) (s : ServiceConfig) (e : EndpointConfig)
  | reconfigureServices (m : Model)
  | closeServices
  | reconfigure (m : Model)
  | close
  | dropLifecycle
  | offer (m : Model)
  | waitState (state : AdapterState) (timeout : Nat)
  | waitPublished (topicPath : String) (count timeout : Nat)

/-- What a command answers. -/
inductive Reply where
  | nothing
  | missing
  | flag (b : Bool)
  | name (s : String)
  | state (s : SourceState)
  | publishing (r : Except PublishingError Unit)
  | service (r : Except ServiceError Unit)
  | services (failures : List StartFailure)
  | lifecycle (e : Option LifecycleError)

namespace World

/-- Begins a simulation. -/
def create (autoActivate logOnly bare : Bool) : World :=
  { autoActivate, logOnly, lifecycle := some { shutdownAwaited := !bare, observed := !bare } }

/-- The generation that a listener tells of. -/
def generationOf (w : World) : Listener → Option Nat
  | .attempt n => w.attempts[n]?
  | .session n => (w.broker.sessions[n]?).map (·.generation)
  | .latest => w.broker.sessions.getLast?.map (·.generation)

/-- Tells a listener, which hands the notification to the lifecycle in a task of its own. -/
def tellListener (l : Listener) (n : Notification) (w : World) : World × Reply :=
  match w.generationOf l with
  | none => (w, .missing)
  | some generation =>
    ({ w with agenda := w.agenda.spawn (.notification generation n) }, .nothing)

/-- Performs an action on the source that the stand-in broker keeps for a service. -/
def actOnService (service : String) (a : Action) (w : World) : World × Reply :=
  match w.standIn.number? service with
  | none => (w, .missing)
  | some n =>
    let (w, result) := w.actOn .standIn n a
    (w, if a = .register then .publishing result else .nothing)

/-- Publishes one value for an endpoint through the stand-in broker. -/
def publishOnce (s : ServiceConfig) (e : EndpointConfig) (kind : PayloadKind) (v : TopicValue)
    (w : World) : World × Reply :=
  match w.bind .standIn s e kind with
  | .error err => (w, .publishing (.error err))
  | .ok target =>
    let (w, result) := w.publish .standIn none target v
    (w, .publishing result)

/-- Gives a name to a new session, unless the poll period of its service is no period. -/
def newSession (name : String) (s : ServiceConfig) (stopOn : Option Trigger) (w : World) :
    World × Reply :=
  if checkPollPeriod s then
    let key : SessionKey := { owner := .named, number := w.namedCount }
    let w := w.addMember
      { key, session := { service := s }, client := .standIn, counted := true, stopOn }
    ({ w with
        named := (name, key) :: w.named.filter fun p => p.1 != name
        namedCount := w.namedCount + 1 },
      .name s.name)
  else (w, .service (.error (.invalidPollPeriod s.name s.pollPeriodMs.toNat)))

/-- Does something with the session of a name. -/
def withNamed (name : String) (f : SessionKey → World → World × Reply) (w : World) :
    World × Reply :=
  match w.named.lookup name with
  | none => (w, .missing)
  | some key => f key w

/-- What the services of the manager run against. -/
def managerContext : Context :=
  { client := .standIn, http := { number := 0, security := [], trust := none }, observed := true }

/-- The manager, which is there from its first use on. -/
def managerOrNew (w : World) : Services :=
  w.manager.getD { owner := .manager }

/-- Changes the services of the manager. -/
def changeManager (s : Services) (effects : List ServicesEffect) (w : World) : World :=
  effects.foldl performServices { w with manager := some s }

/-- Whether the lifecycle is in a state. -/
def isInState (state : AdapterState) (w : World) : Bool :=
  w.lifecycle.any fun l => l.state == state

/-- Whether so many values have been published to a topic of the stand-in broker. -/
def hasPublished (topicPath : String) (count : Nat) (w : World) : Bool :=
  count ≤ w.history.countP fun (_, h) =>
    match h with
    | .published _ path _ => path == topicPath
    | _ => false

/-- Waits for a condition. -/
def wait (condition : World → Bool) (timeout : Nat) (w : World) : World × Reply :=
  let (w, b) := w.waitFor condition (w.now + timeout) (timeout / lookEvery + 2)
  (w, .flag b)

/-- Takes a command. -/
def command (w : World) : Command → World × Reply
  | .advance ms => (w.advance ms, .nothing)
  | .script endpoint once repeated delay =>
    ({ w with
        endpoints := w.endpoints.update endpoint fun s =>
          { s with
            queued := s.queued ++ once
            repeated := repeated.or s.repeated
            delay := delay.getD s.delay } },
      .nothing)
  | .topicOutcome endpoint outcome =>
    ({ w with broker := { w.broker with outcomes := (endpoint, outcome) :: w.broker.outcomes } },
      .nothing)
  | .failHttp fails => ({ w with httpFails := fails }, .nothing)
  | .holdOpens holds => ({ w with broker := { w.broker with holds } }, .nothing)
  | .releaseOpen => (w.releaseOne, .nothing)
  | .failOpens failure => ({ w with broker := { w.broker with failure } }, .nothing)
  | .writeFile name contents => ({ w with files := w.files.write name contents }, .nothing)
  | .removeFile name => ({ w with files := w.files.remove name }, .nothing)
  | .notify listener n => w.tellListener listener n
  | .source service a => w.actOnService service a
  | .addService s =>
    let (w, n) := w.addSource .standIn s
    (w, .state ((w.standIn.source? n).map (·.state) |>.getD .unregistered))
  | .removeService s =>
    let (w, result) := World.removeService .standIn s w
    (w, .publishing result)
  | .publish s e kind v => w.publishOnce s e kind v
  | .newSession name s stopOn => World.newSession name s stopOn w
  | .startSession name =>
    w.withNamed name fun key w =>
      let (w, running) := World.startSession key w
      (w, .flag running)
  | .addEndpoint name e =>
    w.withNamed name fun key w =>
      let (w, result) := World.addEndpoint key e w
      (w, .service result)
  | .stopSession name => w.withNamed name fun key w => (World.stopSession key w, .nothing)
  | .initialise name s e =>
    w.withNamed name fun key w =>
      ({ w with agenda := w.agenda.spawn (.pass (.ofEndpoint s e key .standIn)) }, .nothing)
  | .reconfigureServices m =>
    let (s, failures, effects) := w.managerOrNew.reconfigure managerContext m
    (w.changeManager s effects, .services failures)
  | .closeServices =>
    let (s, effects) := w.managerOrNew.close
    (w.changeManager s effects, .nothing)
  | .reconfigure m =>
    let (w, error) := w.drive (.reconfigure m)
    (w, .lifecycle error)
  | .close => ((w.drive .close).1, .nothing)
  | .dropLifecycle => (World.dropLifecycle w, .nothing)
  | .offer m => (World.offer m w, .nothing)
  | .waitState state timeout => w.wait (isInState state) timeout
  | .waitPublished topicPath count timeout => w.wait (hasPublished topicPath count) timeout

/-- Takes a command and, unless it is to be looked at before, lets everything run that it brings
about. -/
def obey (c : Command) (settled : Bool) (w : World) : World × Reply :=
  let (w, reply) := w.command c
  let w := w.letGo
  (if settled then w.settle else w, reply)

end World

end TopicRelay.Simulation
