/-
Bring-up in the world. The first answer of an endpoint settles its kind; its topic is created and
seeded, and then the endpoint is tracked by its session, as long as the session has not been stopped
and the service is registered. The endpoints of one pass are brought up side by side.
-/
import TopicRelay.Simulation.Sessions

namespace TopicRelay.Simulation.World

open TopicRelay.Broker TopicRelay.Config TopicRelay.Content TopicRelay.Control
open TopicRelay.Polling TopicRelay.Publication

/-- The first request of an endpoint. -/
def bringUpRequest (p : Pass) (e : EndpointConfig) : Request :=
  { session := p.session, purpose := .bringUp, service := p.service.name, endpoint := e.name }

/-- Tracks a resolved endpoint whose topic is there, as long as its service is registered. -/
def trackResolved (p : Pass) (r : Resolved) (w : World) :
    World × Except InitialisationError PayloadKind :=
  if (w.registry p.client).isRegistered p.service.name then
    let (w, result) := w.addEndpoint p.session r.pinned
    match result with
    | .ok _ => (w, .ok r.kind)
    | .error e => (w, .error (.updateContextUnavailable e))
  else (w, .error (.serviceRemoved p.service.name))

/-- Goes on with a resolved endpoint once the creation of its topic has ended. -/
def takeCreation (p : Pass) (e : EndpointConfig) (r : Resolved) (w : World) :
    Except TopicCreationError TopicCreation → World × Except InitialisationError PayloadKind
  | .error err => (w, .error (.topicCreationFailed err))
  | .ok .created => w.trackResolved p r
  | .ok .alreadyExists => (w.say (topicExists p.service e)).trackResolved p r

/-- Creates the topic of a resolved endpoint and tracks the endpoint, unless the session has been
stopped. -/
def bindResolved (p : Pass) (e : EndpointConfig) (r : Resolved) (w : World) :
    World × Except InitialisationError PayloadKind :=
  if w.isStopped p.session then (w, .error (.serviceRemoved p.service.name))
  else
    let (w, created) := w.createTopic p.client p.session p.service r
    w.takeCreation p e r created

/-- Ends a bring-up. -/
def endBringUp (p : Pass) (e : EndpointConfig) (result : Except InitialisationError PayloadKind)
    (w : World) : World × Progress :=
  let w := w.say (bringUpEnded p.service e result)
  let w := if p.wholeService then w else w.record (.initialised e.name result)
  (w, .done result)

/-- Takes the first answer of an endpoint. -/
def concludeBringUp (p : Pass) (e : EndpointConfig) (answer : Answer) (w : World) :
    World × Progress :=
  let w := w.record (.answered (bringUpRequest p e))
  let w := { w with endpoints := w.endpoints.release e.name }
  match resolveAnswer e answer with
  | .error err => w.endBringUp p e (.error err)
  | .ok r =>
    let (w, result) := w.bindResolved p e r
    w.endBringUp p e result

/-- Begins a bring-up with the first request, unless the session has been stopped. -/
def beginBringUp (p : Pass) (e : EndpointConfig) (w : World) : World × Progress :=
  let w := w.say (bringUpStarted p.service e)
  if w.isStopped p.session then w.endBringUp p e (.error (.serviceRemoved p.service.name))
  else
    let (endpoints, answer, delay) := w.endpoints.request e.name
    let w := { w.record (.requested (bringUpRequest p e)) with endpoints }
    if delay = 0 then w.concludeBringUp p e answer
    else (w, .requesting (w.now + delay) answer)

/-- Goes on with the bring-up of an endpoint as far as possible. -/
def turnBringUp (p : Pass) (e : EndpointConfig) (w : World) : Progress → World × Progress
  | .pending => w.beginBringUp p e
  | .requesting due answer =>
    if due ≤ w.now then w.concludeBringUp p e answer else (w, .requesting due answer)
  | .done result => (w, .done result)

/-- Goes on with every endpoint of a pass, in order. -/
def turnParts (p : Pass) (w : World) :
    List (EndpointConfig × Progress) → World × List (EndpointConfig × Progress)
  | [] => (w, [])
  | (e, progress) :: rest =>
    let (w, progress) := w.turnBringUp p e progress
    let (w, rest) := w.turnParts p rest
    (w, (e, progress) :: rest)

/-- The instants that requests begun in a turn wait for. -/
def newDues : List (EndpointConfig × Progress) → List (EndpointConfig × Progress) → List Nat
  | (_, .pending) :: before, (_, .requesting due _) :: after => due :: newDues before after
  | _ :: before, _ :: after => newDues before after
  | _, _ => []

/-- The entry that a whole service has been brought up. -/
def passEntry (p : Pass) : Log.Entry :=
  starterEntry "service_start" p.service
    [("initialised", .count (p.parts.countP fun part => part.2.succeeded)),
      ("endpoints", .count p.service.endpoints.length)]

/-- A turn of a pass: the pass after it, and the instants at which it is to be woken. A pass over a
whole service begins by starting the session and ends at once if that is stopped. -/
def turnPass (p : Pass) (w : World) : World × Option Pass × List Nat :=
  let (w, live) := if p.wholeService && !p.begun then w.startSession p.session else (w, true)
  if live then
    let (w, parts) := w.turnParts p p.parts
    let after := { p with begun := true, parts }
    if parts.all fun part => part.2.isDone then
      (if p.wholeService then w.say (passEntry after) else w, none, [])
    else (w, some after, newDues p.parts parts)
  else (w, none, [])

end TopicRelay.Simulation.World
