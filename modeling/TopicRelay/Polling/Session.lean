/-
Poll sessions. A session polls the endpoints of one service: each endpoint that it tracks has one
slot, and one cycle once the session runs. A cycle rests for the poll period between its requests
and hands each result to the handler of its slot, unless the session has been stopped, which is for
good. Epochs tell the registrations of a session apart.
-/
import TopicRelay.Config.Model
import TopicRelay.Content.PollError
import TopicRelay.Content.Response
import TopicRelay.Log.Entry
import TopicRelay.Polling.Metrics

namespace TopicRelay.Polling

open TopicRelay.Config TopicRelay.Content TopicRelay.Log

/-- The answer to a request. -/
abbrev Answer := Except PollError Response

/-- The event of an answer. -/
def answerEvent : Answer → PollEvent
  | .ok r => .response r
  | .error e => .failure e

/-- How far a cycle has gone, and what it waits for. -/
inductive Stage where
  /-- The time of its next execution. -/
  | resting (due : Nat)
  /-- An execution has begun; its request is yet to be sent. -/
  | prepared
  /-- The answer to its request, which comes at a known time. -/
  | requesting (due : Nat) (answer : Answer)
  /-- The session, which takes the answer. -/
  | answered (answer : Answer)
  deriving Repr, Inhabited

/-- The time that a cycle waits for. -/
def Stage.due? : Stage → Option Nat
  | .resting due => some due
  | .requesting due _ => some due
  | .prepared | .answered _ => none

/-- The recurring requests of one registration. -/
structure Cycle where
  endpoint : EndpointConfig
  epoch : Nat
  stage : Stage
  cancelled : Bool := false
  deriving Repr, Inhabited

/-- A tracked endpoint. -/
structure Slot (η : Type) where
  config : EndpointConfig
  epoch : Nat
  handler : η
  /-- Whether the slot has a cycle. -/
  scheduled : Bool := false
  deriving Repr, DecidableEq, Inhabited

/-- What an operation of a session brings about. -/
inductive SessionEffect where
  | log (e : Entry)
  /-- A cycle begins. -/
  | spawn (epoch : Nat) (e : EndpointConfig)
  /-- A cycle and its request are cancelled. -/
  | cancel (epoch : Nat)
  deriving Repr, DecidableEq

/-- What a step of a cycle brings about. -/
inductive CycleEffect (η : Type) where
  | log (e : Entry)
  /-- The listener is told. -/
  | tell (ev : PollEvent)
  /-- The request goes out. -/
  | send (c : Cycle)
  /-- The request ends with an answer. -/
  | settle (c : Cycle) (answer : Answer)
  /-- The request ends without an answer. -/
  | abandon (c : Cycle)
  /-- The result is handed to a handler. -/
  | deliver (c : Cycle) (handler : η) (answer : Answer)
  deriving Repr

/-- The polling of one service, with handlers of results in `η`. -/
structure Session (η : Type) where
  service : ServiceConfig
  running : Bool := false
  stopped : Bool := false
  nextEpoch : Nat := 0
  slots : List (Slot η) := []
  cycles : List Cycle := []
  deriving Repr, Inhabited

/-- A poll period of zero is no period. -/
def checkPollPeriod (s : ServiceConfig) : Bool :=
  s.pollPeriodMs != 0

namespace Session

variable {η ε : Type}

/-- The names of the tracked endpoints. -/
def endpoints (s : Session η) : List String :=
  s.slots.map fun slot => slot.config.name

/-- The slot that tracks an endpoint. -/
def slot? (s : Session η) (name : String) : Option (Slot η) :=
  s.slots.find? fun slot => slot.config.name == name

/-- The cycle of an epoch. -/
def cycle? (s : Session η) (epoch : Nat) : Option Cycle :=
  s.cycles.find? fun c => c.epoch == epoch

/-! ## Log entries -/

/-- An entry of the session about itself. -/
def entry (s : Session η) (level : Level) (event : String) (fields : List (String × Field)) :
    Entry :=
  { level, event, component := "service_session"
    fields := ("service", .text s.service.name) :: fields }

/-- An entry that an operation on a stopped session was ignored. -/
def ignoredEntry (s : Session η) (operation : String) : Entry :=
  s.entry .debug "session_ignored"
    [("operation", .text operation), ("reason", .text "session_stopped")]

/-- An entry that the cycle of an endpoint begins. -/
def scheduleEntry (s : Session η) (e : EndpointConfig) : Entry :=
  s.entry .debug "session_endpoint_schedule"
    [("endpoint", .text e.name), ("poll_period_ms", .count s.service.pollPeriodMs.toNat)]

/-- An entry that an endpoint is tracked already, as it is or with another configuration. -/
def trackedEntry (s : Session η) (tracked e : EndpointConfig) : Entry :=
  if tracked = e then s.entry .debug "session_endpoint_duplicate" [("endpoint", .text e.name)]
  else
    s.entry .warn "session_endpoint_conflict"
      [("endpoint", .text e.name), ("tracked_url", .text tracked.url),
        ("tracked_produces", .text tracked.produces), ("url", .text e.url),
        ("produces", .text e.produces)]

/-- An entry that an endpoint has been added. -/
def addedEntry (s : Session η) (e : EndpointConfig) : Entry :=
  s.entry .info "session_endpoint_add"
    [("endpoint", .text e.name), ("running", .flag s.running)]

/-- An entry that a request goes out. -/
def requestEntry (s : Session η) (e : EndpointConfig) : Entry :=
  s.entry .debug "poll_request_start" [("endpoint", .text e.name), ("url", .text e.url)]

/-- An entry about the answer to a request. -/
def answerEntry (s : Session η) (e : EndpointConfig) : Answer → Entry
  | .ok r =>
    s.entry .debug "poll_request_ok" [("endpoint", .text e.name), ("status", .count r.status)]
  | .error err =>
    s.entry .warn "poll_request_failed" [("endpoint", .text e.name), ("err", .text err.message)]

/-- An entry that a result is discarded. -/
def discardedEntry (s : Session η) (e : EndpointConfig) : Entry :=
  s.entry .debug "poll_result_discarded"
    [("endpoint", .text e.name),
      ("reason", .text (if s.running then "endpoint_replaced" else "session_stopped"))]

/-! ## Operations -/

/-- The cycle of a slot that begins now. -/
def newCycle (now : Nat) (slot : Slot η) : Cycle :=
  { endpoint := slot.config, epoch := slot.epoch, stage := .resting now }

/-- Begins a cycle for each slot that has none. -/
def scheduleAll (now : Nat) (s : Session η) : Session η × List SessionEffect :=
  let dormant := s.slots.filter fun slot => !slot.scheduled
  ({ s with
      slots := s.slots.map fun slot => { slot with scheduled := true }
      cycles := s.cycles ++ dormant.map (newCycle now) },
    dormant.flatMap fun slot =>
      [.log (s.scheduleEntry slot.config), .spawn slot.epoch slot.config])

/-- Runs the session: every tracked endpoint is polled from now on. A stopped session stays as it
is, which is told by `false`. -/
def start (now : Nat) (s : Session η) : Session η × Bool × List SessionEffect :=
  if s.stopped then (s, false, [.log (s.ignoredEntry "start")])
  else
    let begun := s.entry .info "session_start" [("endpoints", .count s.slots.length)]
    let (s₁, effects) := { s with running := true }.scheduleAll now
    (s₁, true, .log begun :: effects)

/-- Tracks an endpoint with the handler that `create` gives it, unless one of the same name is
tracked or the session has been stopped. -/
def add (create : EndpointConfig → Except ε η) (now : Nat) (e : EndpointConfig) (s : Session η) :
    Session η × Except ε Unit × List SessionEffect :=
  if s.stopped then (s, .ok (), [.log (s.ignoredEntry "add_endpoint")])
  else
    match s.slot? e.name with
    | some slot => (s, .ok (), [.log (s.trackedEntry slot.config e)])
    | none =>
      match create e with
      | .error err => (s, .error err, [])
      | .ok handler =>
        let slot : Slot η := { config := e, epoch := s.nextEpoch, handler, scheduled := s.running }
        let s₁ := { s with
          nextEpoch := s.nextEpoch + 1
          slots := s.slots ++ [slot]
          cycles := if s.running then s.cycles ++ [newCycle now slot] else s.cycles }
        let scheduled :=
          if s.running then [.log (s.scheduleEntry e), .spawn slot.epoch e] else []
        (s₁, .ok (), scheduled ++ [.log (s.addedEntry e)])

/-- Cancels every cycle and forgets every endpoint, for good. -/
def stop (s : Session η) : Session η × List SessionEffect :=
  let scheduled := s.slots.filter fun slot => slot.scheduled
  let cancels := scheduled.map fun slot => SessionEffect.cancel slot.epoch
  let told :=
    if s.running || !s.slots.isEmpty then
      [.log (s.entry .info "session_stop" [("endpoints", .count s.slots.length)])]
    else []
  ({ s with
      running := false
      stopped := true
      slots := []
      cycles := s.cycles.map fun c => { c with cancelled := true } },
    cancels ++ told)

/-! ## Cycles -/

/-- Puts the cycle of an epoch into a stage. -/
def setStage (epoch : Nat) (stage : Stage) (s : Session η) : Session η :=
  { s with cycles := s.cycles.map fun c => if c.epoch == epoch then { c with stage } else c }

/-- The slot that the cycle of an epoch polls, as long as the session runs. -/
def polled? (s : Session η) (c : Cycle) : Option (Slot η) :=
  if s.running then
    (s.slot? c.endpoint.name).filter fun slot => slot.epoch == c.epoch && slot.scheduled
  else none

/-- The handler that takes the result of a cycle, unless the result is to be discarded. -/
def receiver? (s : Session η) (c : Cycle) : Option η :=
  if s.running then
    ((s.slot? c.endpoint.name).filter fun slot => slot.epoch == c.epoch).map (·.handler)
  else none

/-- How long a cycle rests between its executions. -/
def period (s : Session η) : Nat :=
  s.service.pollPeriodMs.toNat

/-- Begins an execution that is due: a request is prepared if the session wants one, and otherwise the
cycle rests again. -/
def prepare (now epoch : Nat) (s : Session η) : Session η × List (CycleEffect η) :=
  match s.cycle? epoch with
  | none => (s, [])
  | some c =>
    match c.stage with
    | .resting due =>
      if now < due then (s, [])
      else
        match s.polled? c with
        | none => (s.setStage epoch (.resting (now + s.period)), [])
        | some slot =>
          (s.setStage epoch .prepared, [.log (s.requestEntry slot.config), .tell .request])
    | _ => (s, [])

/-- Takes an answer. -/
def answer (c : Cycle) (a : Answer) (s : Session η) : Session η × List (CycleEffect η) :=
  (s.setStage c.epoch (.answered a),
    [.log (s.answerEntry c.endpoint a), .tell (answerEvent a)])

/-- Sends a prepared request, whose answer comes at a known time. A request that is cancelled before
it is sent is not sent. -/
def send (due : Nat) (a : Answer) (epoch : Nat) (s : Session η) :
    Session η × List (CycleEffect η) :=
  match s.cycle? epoch with
  | none => (s, [])
  | some c =>
    match c.stage with
    | .prepared =>
      if c.cancelled then s.answer c (.error .cancelled)
      else (s.setStage epoch (.requesting due a), [.send c])
    | _ => (s, [])

/-- Takes the answer to a request, once it has come. -/
def receive (now epoch : Nat) (s : Session η) : Session η × List (CycleEffect η) :=
  match s.cycle? epoch with
  | none => (s, [])
  | some c =>
    match c.stage with
    | .requesting due a =>
      if now < due then (s, [])
      else
        let a := if c.cancelled then .error .cancelled else a
        let (s, effects) := s.answer c a
        (s, .settle c a :: effects)
    | _ => (s, [])

/-- Ends an execution: its result goes to the handler that takes it, and the cycle rests. -/
def conclude (now epoch : Nat) (s : Session η) : Session η × List (CycleEffect η) :=
  match s.cycle? epoch with
  | none => (s, [])
  | some c =>
    match c.stage with
    | .answered a =>
      (s.setStage epoch (.resting (now + s.period)),
        match s.receiver? c with
        | some handler => [.deliver c handler a]
        | none => [.log (s.discardedEntry c.endpoint)])
    | _ => (s, [])

/-- Ends a cycle that has been cancelled, and its request if one is under way. -/
def dropCycle (epoch : Nat) (s : Session η) : Session η × List (CycleEffect η) :=
  match s.cycle? epoch with
  | none => (s, [])
  | some c =>
    if c.cancelled then
      ({ s with cycles := s.cycles.filter fun c => c.epoch != epoch },
        match c.stage with
        | .requesting _ _ => [.abandon c]
        | _ => [])
    else (s, [])

end Session

end TopicRelay.Polling
