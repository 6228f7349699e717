/-
Sessions of the log-only broker used by hand: sources and targets are kept under names, and closing a
source is told by its name.
-/
import TopicRelay.Broker.LogOnly

namespace TopicRelay.Simulation

open TopicRelay.Broker TopicRelay.Config TopicRelay.Content TopicRelay.Log
open TopicRelay.Publication TopicRelay.Text

/-- Log-only sessions with what was kept of them. -/
structure LogSessions where
  sessions : List (Session × Registry String) := []
  /-- The session and the number of each source that was kept. -/
  sources : List (String × Nat × Nat) := []
  targets : List (String × Target) := []
  deriving Inhabited

/-- What is done with the sessions. -/
inductive LogCommand where
  | open (broker : BrokerConfig) (bundle : Option (String × Octets))
  | close (session : Nat)
  | announce (session : Nat) (s : ServiceConfig)
  | createTopic (session : Nat) (s : ServiceConfig) (e : EndpointConfig) (kind : PayloadKind)
      (initial : Option TopicValue)
  | add (session : Nat) (as : String) (s : ServiceConfig)
  | source (as : String) (a : Action)
  | bind (session : Nat) (as : String) (s : ServiceConfig) (e : EndpointConfig)
      (kind : PayloadKind)
  | publish (as : String) (v : TopicValue)
  | remove (session : Nat) (s : ServiceConfig)
  | whileRegistered (session : Nat) (s : ServiceConfig)

/-- What a command answers. -/
inductive LogReply where
  | nothing
  | missing
  | opened (r : Except Trust.TrustError String)
  | created
  | publishing (r : Except PublishingError Unit)
  | bound (r : Except PublishingError String)
  /-- Whether work ran that needs a registered service. -/
  | ran (b : Bool)

/-- What a command leads to. -/
structure LogStep where
  next : LogSessions
  reply : LogReply := .nothing
  /-- The names of the sources that were closed. -/
  closed : List String := []
  log : List Entry := []

namespace LogSessions

/-- The registry of a session. -/
def registry (l : LogSessions) (session : Nat) : Registry String :=
  (l.sessions[session]?.map (·.2)).getD .empty

/-- Puts a registry in place of that of a session. -/
def setRegistry (session : Nat) (r : Registry String) (l : LogSessions) : LogSessions :=
  { l with
    sessions := match l.sessions[session]? with
      | some (s, _) => l.sessions.set session (s, r)
      | none => l.sessions }

/-- The hooks that ran. -/
def ranHooks (ns : List (Notice String)) : List String :=
  ns.filterMap fun
    | .moved _ _ => none
    | .ran h => some h

/-- The log entries of what happened to sources. -/
def noticeEntries (ns : List (Notice String)) : List Entry :=
  ns.filterMap fun
    | .moved topicPath t => some (t.entry topicPath)
    | .ran _ => none

/-- A step that changes the registry of a session. -/
def changed (l : LogSessions) (session : Nat) (r : Registry String) (ns : List (Notice String))
    (reply : LogReply) (more : List Entry) : LogStep :=
  { next := l.setRegistry session r, reply, closed := ranHooks ns
    log := noticeEntries ns ++ more }

/-- Opens a session, with the trust of a bundle if one is given. -/
def openSession (l : LogSessions) (broker : BrokerConfig) (bundle : Option (String × Octets)) :
    LogStep :=
  let trust : Except Trust.TrustError (Option Trust.Context) :=
    match bundle with
    | none => .ok none
    | some (truststore, contents) => (Trust.Context.ofPem truststore contents).map some
  match trust with
  | .error e => { next := l, reply := .opened (.error e) }
  | .ok trust =>
    let s := LogOnly.session l.sessions.length broker trust
    { next := { l with sessions := l.sessions ++ [(s, .empty)] }
      reply := .opened (.ok s.id)
      log := [LogOnly.openedEntry s] }

/-- Adds a service and keeps its source under a name. -/
def addService (l : LogSessions) (session : Nat) (as : String) (s : ServiceConfig) : LogStep :=
  let (r, n, told) := (l.registry session).add LogOnly.policy s
  let (r, more) := r.attachAll n [(.closed, as)]
  let kept := (as, session, n) :: l.sources.filter fun p => p.1 != as
  { l with sources := kept }.changed session r (told ++ more) .nothing []

/-- Takes a command. -/
def step (l : LogSessions) : LogCommand → LogStep
  | .open broker bundle => l.openSession broker bundle
  | .close session =>
    match l.sessions[session]? with
    | none => { next := l, reply := .missing }
    | some (s, r) =>
      let (r, told) := r.closeAll
      l.changed session r told .nothing [LogOnly.closedEntry s.id]
  | .announce _ s => { next := l, log := [LogOnly.announcedEntry s] }
  | .createTopic _ s e kind initial =>
    { next := l, reply := .created, log := [LogOnly.topicEntry s e kind initial.isSome] }
  | .add session as s => l.addService session as s
  | .source as a =>
    match l.sources.lookup as with
    | none => { next := l, reply := .missing }
    | some (session, n) =>
      let (r, told, refused) := (l.registry session).call n (.act a)
      let reply := match a, refused with
        | .register, none => .publishing (.ok ())
        | _, some e => .publishing (.error e)
        | _, none => .nothing
      l.changed session r told reply []
  | .bind session as s e kind =>
    match LogOnly.bind (l.registry session) s e kind with
    | .ok t =>
      { next := { l with targets := (as, t) :: l.targets }, reply := .bound (.ok t.topicPath) }
    | .error e => { next := l, reply := .bound (.error e) }
  | .publish as v =>
    match l.targets.lookup as with
    | none => { next := l, reply := .missing }
    | some t =>
      match t.check v with
      | .error e => { next := l, reply := .publishing (.error e) }
      | .ok _ => { next := l, reply := .publishing (.ok ()), log := [LogOnly.updatedEntry t v] }
  | .remove session s =>
    let (r, told, result) := (l.registry session).remove s.name
    l.changed session r told (.publishing result) <|
      match result with
      | .ok _ => [LogOnly.removedEntry s.name]
      | .error _ => []
  | .whileRegistered session s =>
    { next := l
      reply := .ran (LogOnly.whileRegistered (l.registry session) s (fun _ => true) false).1 }

/-- The states of the sources kept under names. -/
def states (l : LogSessions) : List (String × SourceState) :=
  l.sources.filterMap fun (as, session, n) =>
    ((l.registry session).source? n).map fun s => (as, s.state)

end LogSessions

end TopicRelay.Simulation
