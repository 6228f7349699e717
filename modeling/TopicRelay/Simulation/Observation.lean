/-
Observations: what a simulation shows after a command, as the news since the last observation and the
state of the adapter.
-/
import TopicRelay.Simulation.Command

namespace TopicRelay.Simulation

open TopicRelay.Broker TopicRelay.Config TopicRelay.Content TopicRelay.Control
open TopicRelay.Polling TopicRelay.Publication

/-- The news of an endpoint: when requests were begun and answered, and how many are under way. -/
structure RequestNews where
  started : List Nat
  completed : List Nat
  inFlight : Nat
  maxInFlight : Nat

/-- What a session that is run by name shows. -/
structure SessionView where
  running : Bool
  stopped : Bool
  endpoints : List String

/-- What a lifecycle shows. -/
structure LifecycleView where
  state : AdapterState
  running : List String
  /-- The model, if it is another one than at the last observation. -/
  newModel : Option Model

/-- What a simulation shows. -/
structure Observation where
  time : Nat
  metrics : Metrics
  openCalls : Nat
  httpLayers : Nat
  shutdowns : Nat
  requests : List (String × RequestNews)
  /-- Values by topic path. -/
  published : List (String × TopicValue)
  /-- Topics that were asked for, by topic path, with how often each has been asked for. -/
  topics : List (TopicRequest × Nat)
  announced : List String
  removed : List String
  notified : List (Occasion × String)
  opens : List OpenRequest
  /-- Bring-ups of single endpoints, by endpoint. -/
  initialised : List (Nat × String × Except InitialisationError PayloadKind)
  sources : List (String × SourceState)
  sessions : List (String × SessionView)
  managed : List String
  lifecycle : Option LifecycleView
  brokerSessions : List (String × Nat)
  metricsTask : Option Bool
  log : List Log.Stamped

/-- Sorts by a text, keeping the order of equal ones. -/
def sortByText {α : Type} (key : α → String) (xs : List α) : List α :=
  xs.mergeSort fun a b => decide (key a ≤ key b)

namespace World

/-- What happened after a history of some length, the earliest first. -/
def newsSince (seen : Nat) (w : World) : List (Nat × Happening) :=
  (w.history.take (w.history.length - seen)).reverse

/-- The requests of an endpoint among the news. -/
def requestNews (news : List (Nat × Happening)) (name : String) (s : Script) : RequestNews :=
  { started := news.filterMap fun (t, h) =>
      match h with
      | .requested r => if r.endpoint == name then some t else none
      | _ => none
    completed := news.filterMap fun (t, h) =>
      match h with
      | .answered r => if r.endpoint == name then some t else none
      | _ => none
    inFlight := s.inFlight
    maxInFlight := s.maxInFlight }

/-- Whether an endpoint has anything to show. -/
def RequestNews.isNews (n : RequestNews) : Bool :=
  !n.started.isEmpty || !n.completed.isEmpty || n.inFlight != 0

/-- How often a topic has been asked for. -/
def topicCount (w : World) (topicPath : String) : Nat :=
  w.history.countP fun (_, h) =>
    match h with
    | .topicAsked t => t.topicPath == topicPath
    | _ => false

/-- What a session shows. -/
def viewSession (m : Member) : SessionView :=
  { running := m.session.running, stopped := m.session.stopped
    endpoints := sortByText id m.session.endpoints }

/-- What the world shows now, given how long its history was and which model it had at the last
observation. -/
def observe (seen : Nat) (known : Option Model) (w : World) : Observation :=
  let news := w.newsSince seen
  let requests := w.endpoints.scripts.map fun (name, s) => (name, requestNews news name s)
  { time := w.now
    metrics := w.metrics
    openCalls := w.broker.openCalls
    httpLayers := w.httpLayers
    shutdowns := w.shutdowns
    requests := requests.filter fun (_, n) => RequestNews.isNews n
    published := sortByText (·.1) <| news.filterMap fun (_, h) =>
      match h with
      | .published _ path v => some (path, v)
      | _ => none
    topics := sortByText (·.1.topicPath) <| news.filterMap fun (_, h) =>
      match h with
      | .topicAsked t => some (t, w.topicCount t.topicPath)
      | _ => none
    announced := news.filterMap fun (_, h) =>
      match h with
      | .serviceAnnounced s => some s
      | _ => none
    removed := news.filterMap fun (_, h) =>
      match h with
      | .removalAsked s => some s
      | _ => none
    notified := news.filterMap fun (_, h) =>
      match h with
      | .notified on s => some (on, s)
      | _ => none
    opens := news.filterMap fun (_, h) =>
      match h with
      | .opening o => some o
      | _ => none
    initialised := sortByText (·.2.1) <| news.filterMap fun (t, h) =>
      match h with
      | .initialised e r => some (t, e, r)
      | _ => none
    sources := w.standIn.kept.filterMap fun (name, n) =>
      (w.standIn.source? n).map fun s => (name, s.state)
    sessions := w.named.filterMap fun (name, key) =>
      (w.member? key).map fun m => (name, viewSession m)
    managed := (w.manager.map Services.names).getD []
    lifecycle := w.lifecycle.map fun l =>
      { state := l.state, running := l.services.names
        newModel := if l.model = known then none else l.model }
    brokerSessions := w.broker.sessions.map fun s => (s.session.id, s.closeCalls)
    metricsTask := w.feed.map fun r => r.task.isSome
    log := Log.byPlace <| news.filterMap fun (t, h) =>
      match h with
      | .logged e => some { time := t, entry := e }
      | _ => none }

end World

/-- A world with what has been seen of it: how much of its history, and the last model. -/
structure Watched where
  world : World
  seen : Nat := 0
  known : Option Model := none

namespace Watched

/-- Takes a command and shows what it led to. -/
def step (c : Command) (settled : Bool) (s : Watched) : Watched × Reply × Observation :=
  let (w, reply) := s.world.obey c settled
  let shown := w.observe s.seen s.known
  let known := match w.lifecycle with
    | some l => l.model
    | none => s.known
  ({ world := w, seen := w.history.length, known }, reply, shown)

end Watched

end TopicRelay.Simulation
