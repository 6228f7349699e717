/-
Sessions in the world: their operations, and the turns of their cycles. A turn sends a request and,
once it is answered, hands the result over and rests; between the two the session may be stopped.
-/
import TopicRelay.Simulation.World

namespace TopicRelay.Simulation.World

open TopicRelay.Broker TopicRelay.Config TopicRelay.Content TopicRelay.Control
open TopicRelay.Polling TopicRelay.Publication

/-- The session of a key. -/
def member? (w : World) (key : SessionKey) : Option Member :=
  w.members.find? fun m => m.key == key

/-- Whether the session of a key has been stopped; one that nobody holds is as good as stopped. -/
def isStopped (w : World) (key : SessionKey) : Bool :=
  match w.member? key with
  | some m => m.session.stopped
  | none => true

/-- Changes the session of a key. -/
def mapMember (key : SessionKey) (f : Member → Member) (w : World) : World :=
  { w with members := w.members.map fun m => if m.key == key then f m else m }

/-- Puts a session in place of that of a key. -/
def setSession (key : SessionKey) (s : Polling.Session Handler) (w : World) : World :=
  w.mapMember key fun m => { m with session := s }

/-- Whether work is the cycle of an epoch of a session. -/
def isCycle (key : SessionKey) (epoch : Nat) : Work → Bool
  | .cycle k e => k == key && e == epoch
  | _ => false

/-- Lets an effect of a session take place. -/
def performSession (key : SessionKey) (w : World) : SessionEffect → World
  | .log e => w.say e
  | .spawn epoch _ => { w with agenda := w.agenda.spawn (.cycle key epoch) }
  | .cancel epoch => { w with agenda := w.agenda.abortWhere (isCycle key epoch) }

/-- Puts a session in place and lets effects take place. -/
def settleSession (key : SessionKey) (s : Polling.Session Handler) (effects : List SessionEffect)
    (w : World) : World :=
  effects.foldl (performSession key) (w.setSession key s)

/-! ## Operations -/

/-- Runs a session. -/
def startSession (key : SessionKey) (w : World) : World × Bool :=
  match w.member? key with
  | none => (w, false)
  | some m =>
    let (s, running, effects) := m.session.start w.now
    (w.settleSession key s effects, running)

/-- Stops a session. -/
def stopSession (key : SessionKey) (w : World) : World :=
  match w.member? key with
  | none => w
  | some m =>
    let (s, effects) := m.session.stop
    w.settleSession key s effects

/-- Tracks an endpoint in a session, with a handler that publishes through the session's client. -/
def addEndpoint (key : SessionKey) (e : EndpointConfig) (w : World) :
    World × Except ServiceError Unit :=
  match w.member? key with
  | none => (w, .ok ())
  | some m =>
    let create := fun e =>
      Handler.create (w.bind m.client m.session.service e) m.session.service e
    let (s, result, effects) := m.session.add create w.now e
    (w.settleSession key s effects, result)

/-- Holds a new session. -/
def addMember (m : Member) (w : World) : World :=
  { w with members := w.members ++ [m] }

/-! ## Cycles -/

/-- Counts a poll event and stops the session if it is to be stopped there. -/
def pollEvent (key : SessionKey) (ev : PollEvent) (w : World) : World :=
  match w.member? key with
  | none => w
  | some m =>
    let w := if m.counted then { w with metrics := w.metrics.count ev } else w
    if m.stopOn = some (triggerOf ev) then
      (w.mapMember key fun m => { m with stopOn := none }).stopSession key
    else w

/-- Hands a result to a handler. -/
def handle (m : Member) (h : Handler) (answer : Answer) (w : World) : World :=
  match h.value answer with
  | .error e => w.say (h.entry (some e.message))
  | .ok v =>
    let (w, result) := w.publish m.client (some m.key) h.target v
    match result with
    | .ok _ => w.say (h.entry none)
    | .error e => w.say (h.entry (some e.message))

/-- The request of a cycle. -/
def pollRequest (m : Member) (c : Cycle) : Request :=
  { session := m.key, purpose := .poll, service := m.session.service.name
    endpoint := c.endpoint.name }

/-- Lets an effect of a cycle of a session take place. -/
def performCycle (m : Member) (w : World) : CycleEffect Handler → World
  | .log e => w.say e
  | .tell ev => w.pollEvent m.key ev
  | .send c =>
    { w.record (.requested (pollRequest m c)) with
      endpoints := (w.endpoints.request c.endpoint.name).1 }
  | .settle c _ =>
    { w.record (.answered (pollRequest m c)) with
      endpoints := w.endpoints.release c.endpoint.name }
  | .abandon c =>
    { w.record (.abandoned (pollRequest m c)) with
      endpoints := w.endpoints.release c.endpoint.name }
  | .deliver _ h answer => w.handle m h answer

/-- Lets a cycle of a session take a step. -/
def moveCycle (key : SessionKey)
    (step : Polling.Session Handler → Polling.Session Handler × List (CycleEffect Handler))
    (w : World) : World :=
  match w.member? key with
  | none => w
  | some m =>
    let (s, effects) := step m.session
    effects.foldl (performCycle m) (w.setSession key s)

/-- The cycle of an epoch of a session. -/
def cycle? (key : SessionKey) (epoch : Nat) (w : World) : Option Cycle :=
  (w.member? key).bind fun m => m.session.cycle? epoch

/-- Sends the request of a cycle; its endpoint decides on the answer and its delay. -/
def sendPoll (key : SessionKey) (epoch : Nat) (w : World) : World :=
  match w.cycle? key epoch with
  | none => w
  | some c =>
    let (_, answer, delay) := w.endpoints.request c.endpoint.name
    w.moveCycle key fun s => s.send (w.now + delay) answer epoch

/-- The time that a cycle waits for. -/
def cycleDue? (key : SessionKey) (epoch : Nat) (w : World) : Option Nat :=
  (w.cycle? key epoch).bind fun c => c.stage.due?

/-- Lets a cycle go on as far as it can: it begins an execution, sends a request, takes the answer
and hands it over. -/
def runCycle (key : SessionKey) (epoch : Nat) (w : World) : World :=
  let w := w.moveCycle key fun s => s.prepare w.now epoch
  let w := w.sendPoll key epoch
  let w := w.moveCycle key fun s => s.receive w.now epoch
  w.moveCycle key fun s => s.conclude w.now epoch

/-- A turn of a cycle: when it is to be woken, unless it is woken already or has ended. -/
def turnCycle (key : SessionKey) (epoch : Nat) (w : World) : World × Option Nat :=
  if (w.cycleDue? key epoch).any fun due => decide (due ≤ w.now) then
    let w := w.runCycle key epoch
    (w, w.cycleDue? key epoch)
  else (w, none)

/-- Drops a cycle, and its request if one is under way. -/
def dropCycle (key : SessionKey) (epoch : Nat) (w : World) : World :=
  w.moveCycle key fun s => s.dropCycle epoch

end TopicRelay.Simulation.World
