/-
Poll sessions under every interleaving. A move is one thing that can happen to a session while it is
held: it is started or stopped, an endpoint is added, or a cycle takes the next of its steps. Moves
come in any order and at any times, so that anything can happen between two steps of a cycle: before
its request is prepared, before it is sent, while it is under way, and while its answer waits for the
session.

`step_take` says once what a move can come to; later modules argue by cases on it.
-/
import TopicRelay.Polling.Session
import Mathlib.Data.List.Nodup

namespace TopicRelay.Polling

open TopicRelay.Config TopicRelay.Content TopicRelay.Log

variable {η ε : Type}

/-! ## Moves and deeds -/

/-- Something that a move brings about. -/
inductive Deed (η : Type) where
  | operation (e : SessionEffect)
  | cycle (e : CycleEffect η)
  deriving Repr

/-- What can happen to a session next. -/
inductive Move (ε η : Type) where
  | start (now : Nat)
  /-- An endpoint is added; handlers are made in some way, and may be refused. -/
  | add (create : EndpointConfig → Except ε η) (now : Nat) (e : EndpointConfig)
  | stop
  /-- A cycle that rests begins an execution. -/
  | prepare (now epoch : Nat)
  /-- A prepared request is sent, to be answered at some time. -/
  | send (due : Nat) (a : Answer) (epoch : Nat)
  | receive (now epoch : Nat)
  /-- An answer is handed over. -/
  | conclude (now epoch : Nat)
  /-- A cancelled cycle ends. -/
  | drop (epoch : Nat)

/-- The endpoint that a cycle polls, with its epoch. -/
def Cycle.registration (c : Cycle) : Nat × EndpointConfig :=
  (c.epoch, c.endpoint)

/-- The endpoint of a slot, with its epoch. -/
def Slot.registration (slot : Slot η) : Nat × EndpointConfig :=
  (slot.epoch, slot.config)

namespace Session

/-- A session to which nothing has happened. -/
def fresh (service : ServiceConfig) : Session η :=
  { service }

/-- Takes a move. -/
def take (s : Session η) : Move ε η → Session η × List (Deed η)
  | .start now => ((s.start now).1, (s.start now).2.2.map .operation)
  | .add create now e => ((s.add create now e).1, (s.add create now e).2.2.map .operation)
  | .stop => (s.stop.1, s.stop.2.map .operation)
  | .prepare now epoch => ((s.prepare now epoch).1, (s.prepare now epoch).2.map .cycle)
  | .send due a epoch => ((s.send due a epoch).1, (s.send due a epoch).2.map .cycle)
  | .receive now epoch => ((s.receive now epoch).1, (s.receive now epoch).2.map .cycle)
  | .conclude now epoch => ((s.conclude now epoch).1, (s.conclude now epoch).2.map .cycle)
  | .drop epoch => ((s.dropCycle epoch).1, (s.dropCycle epoch).2.map .cycle)

/-- Takes moves one after the other. -/
def run (s : Session η) : List (Move ε η) → Session η × List (Deed η)
  | [] => (s, [])
  | mv :: rest =>
    let (s₁, ds) := s.take mv
    let (s₂, more) := s₁.run rest
    (s₂, ds ++ more)

/-! ## What a move comes to -/

/-- The slots without a cycle. -/
def dormant (s : Session η) : List (Slot η) :=
  s.slots.filter fun slot => !slot.scheduled

/-- The slot of an endpoint that is added now. -/
def slotFor (s : Session η) (e : EndpointConfig) (handler : η) : Slot η :=
  { config := e, epoch := s.nextEpoch, handler, scheduled := s.running }

/-- What a start brings about: a cycle for each slot without one. -/
def startEffects (s : Session η) : List SessionEffect :=
  .log (s.entry .info "session_start" [("endpoints", .count s.slots.length)]) ::
    s.dormant.flatMap fun slot =>
      [.log (s.scheduleEntry slot.config), .spawn slot.epoch slot.config]

/-- What it brings about that an endpoint is added: a cycle if the session runs. -/
def addEffects (s : Session η) (e : EndpointConfig) : List SessionEffect :=
  (if s.running then [.log (s.scheduleEntry e), .spawn s.nextEpoch e] else []) ++
    [.log (s.addedEntry e)]

/-- What a step of a cycle comes to: the stage after it, and what it brings about. -/
inductive Advance (s : Session η) (c : Cycle) : Stage → List (CycleEffect η) → Prop
  | prepared {due : Nat} {slot : Slot η} (rests : c.stage = .resting due)
      (wanted : s.polled? c = some slot) :
      Advance s c .prepared [.log (s.requestEntry slot.config), .tell .request]
  | skipped {due next : Nat} (rests : c.stage = .resting due) (unwanted : s.polled? c = none) :
      Advance s c (.resting next) []
  | sent {due : Nat} {a : Answer} (ready : c.stage = .prepared) (live : c.cancelled = false) :
      Advance s c (.requesting due a) [.send c]
  | refused (ready : c.stage = .prepared) (cancelled : c.cancelled = true) :
      Advance s c (.answered (.error .cancelled))
        [.log (s.answerEntry c.endpoint (.error .cancelled)), .tell (.failure .cancelled)]
  | received {due : Nat} {a b : Answer} (asked : c.stage = .requesting due a) :
      Advance s c (.answered b)
        [.settle c b, .log (s.answerEntry c.endpoint b), .tell (answerEvent b)]
  | delivered {a : Answer} {h : η} {next : Nat} (holds : c.stage = .answered a)
      (taken : s.receiver? c = some h) : Advance s c (.resting next) [.deliver c h a]
  | discarded {a : Answer} {next : Nat} (holds : c.stage = .answered a)
      (untaken : s.receiver? c = none) :
      Advance s c (.resting next) [.log (s.discardedEntry c.endpoint)]

/-- What a move comes to: the session after it, and what it brings about. -/
inductive Step (s : Session η) : Session η → List (Deed η) → Prop
  /-- Nothing happens. -/
  | idle : Step s s []
  /-- The session has been stopped, and the operation is ignored. -/
  | ignored {operation : String} (ended : s.stopped = true) :
      Step s s ([.log (s.ignoredEntry operation)].map .operation)
  | started (now : Nat) (live : s.stopped = false) :
      Step s
        { s with
          running := true
          slots := s.slots.map fun slot => { slot with scheduled := true }
          cycles := s.cycles ++ s.dormant.map (newCycle now) }
        (s.startEffects.map .operation)
  /-- An endpoint of the name is tracked already. -/
  | tracked {slot : Slot η} {e : EndpointConfig} (there : s.slot? e.name = some slot) :
      Step s s ([.log (s.trackedEntry slot.config e)].map .operation)
  | added (now : Nat) (e : EndpointConfig) (handler : η) (live : s.stopped = false)
      (new : s.slot? e.name = none) :
      Step s
        { s with
          nextEpoch := s.nextEpoch + 1
          slots := s.slots ++ [s.slotFor e handler]
          cycles :=
            if s.running then s.cycles ++ [newCycle now (s.slotFor e handler)] else s.cycles }
        ((s.addEffects e).map .operation)
  | stopped : Step s s.stop.1 (s.stop.2.map .operation)
  | advanced {c : Cycle} {stage : Stage} {effects : List (CycleEffect η)}
      (there : s.cycle? c.epoch = some c) (advance : s.Advance c stage effects) :
      Step s (s.setStage c.epoch stage) (effects.map .cycle)
  | dropped {c : Cycle} {effects : List (CycleEffect η)} (there : s.cycle? c.epoch = some c)
      (cancelled : c.cancelled = true)
      (abandons : effects = match c.stage with
        | .requesting _ _ => [.abandon c]
        | _ => []) :
      Step s { s with cycles := s.cycles.filter fun x => x.epoch != c.epoch }
        (effects.map .cycle)

theorem epoch_of_cycle? {s : Session η} {epoch : Nat} {c : Cycle} (h : s.cycle? epoch = some c) :
    c.epoch = epoch := by
  have := List.find?_some h
  simpa using this

theorem step_start (now : Nat) (s : Session η) :
    s.Step (s.start now).1 ((s.start now).2.2.map .operation) := by
  unfold start
  split
  next ended => exact .ignored ended
  next live =>
    exact .started now (Bool.eq_false_iff.2 live)

theorem step_add (create : EndpointConfig → Except ε η) (now : Nat) (e : EndpointConfig)
    (s : Session η) : s.Step (s.add create now e).1 ((s.add create now e).2.2.map .operation) := by
  unfold add
  split
  next ended => exact .ignored ended
  next live =>
    split
    next slot there => exact .tracked there
    next new =>
      split
      next => exact .idle
      next handler _ => exact .added now e handler (Bool.eq_false_iff.2 live) new

/-- A step of a cycle at hand is a move. -/
theorem step_advance {s : Session η} {epoch : Nat} {c : Cycle} {stage : Stage}
    {effects : List (CycleEffect η)} (hc : s.cycle? epoch = some c)
    (h : s.Advance c stage effects) :
    s.Step (s.setStage epoch stage) (effects.map .cycle) := by
  obtain rfl := epoch_of_cycle? hc
  exact .advanced hc h

theorem step_prepare (now epoch : Nat) (s : Session η) :
    s.Step (s.prepare now epoch).1 ((s.prepare now epoch).2.map .cycle) := by
  unfold prepare
  split
  next => exact .idle
  next c there =>
    split
    next due rests =>
      split
      next => exact .idle
      next =>
        split
        next unwanted => exact step_advance there (.skipped rests unwanted)
        next slot wanted => exact step_advance there (.prepared rests wanted)
    next => exact .idle

theorem step_send (due : Nat) (a : Answer) (epoch : Nat) (s : Session η) :
    s.Step (s.send due a epoch).1 ((s.send due a epoch).2.map .cycle) := by
  unfold send
  split
  next => exact .idle
  next c there =>
    obtain rfl := epoch_of_cycle? there
    split
    next ready =>
      split
      next cancelled => exact .advanced there (.refused ready cancelled)
      next live => exact .advanced there (.sent ready (Bool.eq_false_iff.2 live))
    next => exact .idle

theorem step_receive (now epoch : Nat) (s : Session η) :
    s.Step (s.receive now epoch).1 ((s.receive now epoch).2.map .cycle) := by
  unfold receive
  split
  next => exact .idle
  next c there =>
    obtain rfl := epoch_of_cycle? there
    split
    next due a asked =>
      split
      next => exact .idle
      next => exact .advanced there (.received asked)
    next => exact .idle

theorem step_conclude (now epoch : Nat) (s : Session η) :
    s.Step (s.conclude now epoch).1 ((s.conclude now epoch).2.map .cycle) := by
  unfold conclude
  split
  next => exact .idle
  next c there =>
    split
    next a holds =>
      cases taken : s.receiver? c with
      | none => exact step_advance there (.discarded holds taken)
      | some h => exact step_advance there (.delivered holds taken)
    next => exact .idle

theorem step_dropCycle (epoch : Nat) (s : Session η) :
    s.Step (s.dropCycle epoch).1 ((s.dropCycle epoch).2.map .cycle) := by
  unfold dropCycle
  split
  next => exact .idle
  next c there =>
    obtain rfl := epoch_of_cycle? there
    split
    next cancelled => exact .dropped there cancelled rfl
    next => exact .idle

/-- What a move can come to. -/
theorem step_take (s : Session η) (mv : Move ε η) : s.Step (s.take mv).1 (s.take mv).2 := by
  cases mv with
  | start now => exact s.step_start now
  | add create now e => exact s.step_add create now e
  | stop => exact .stopped
  | prepare now epoch => exact s.step_prepare now epoch
  | send due a epoch => exact s.step_send due a epoch
  | receive now epoch => exact s.step_receive now epoch
  | conclude now epoch => exact s.step_conclude now epoch
  | drop epoch => exact s.step_dropCycle epoch

/-- What every step keeps holds after every run. -/
theorem run_induction {P : Session η → List (Deed η) → Prop}
    (step : ∀ s s' ds new, s.Step s' new → P s ds → P s' (ds ++ new)) :
    ∀ (moves : List (Move ε η)) (s : Session η) (ds : List (Deed η)), P s ds →
      P (s.run moves).1 (ds ++ (s.run moves).2)
  | [], s, ds, h => by simpa [run] using h
  | mv :: rest, s, ds, h => by
    have := run_induction step rest _ _ (step s _ ds _ (s.step_take mv) h)
    simpa [run] using this

end Session

end TopicRelay.Polling
