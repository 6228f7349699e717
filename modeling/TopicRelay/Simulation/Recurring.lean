/-
Recurring work on a clock that stands still between commands. The work begins to run when it is first
settled; once it is cancelled, or its handle dropped, it ends at the next settling.
-/
import TopicRelay.Time.FixedDelay

namespace TopicRelay.Simulation

open TopicRelay.Time

/-- Recurring work, its clock, and how long its executions take. -/
structure Recurring where
  now : Nat := 0
  work : FixedDelay
  durations : List Nat
  /-- Whether the handle of the work is still there. -/
  held : Bool := true
  /-- Whether the work has ended. -/
  finished : Bool := false
  deriving Repr, DecidableEq, Inhabited

/-- What is done with the work. -/
inductive RecurringCommand where
  | advance (ms : Nat)
  | cancel
  /-- Drops the handle, which cancels the work. -/
  | drop
  /-- Spawns other work, which has no effect here. -/
  | spawn
  deriving Repr, DecidableEq, Inhabited

namespace Recurring

/-- Work that begins after an initial delay. -/
def schedule (initial delay : Nat) (durations : List Nat) : Recurring :=
  { work := .schedule 0 initial delay, durations }

/-- How long the execution of a number takes: the durations in turn, and the last of them ever
after. -/
def duration (durations : List Nat) (n : Nat) : Nat :=
  match durations[n]? with
  | some d => d
  | none => durations.getLast?.getD 0

/-- How many ends of pauses come up to an instant, at most. An execution and the rest after it take
time together, apart from those without duration when there is no delay, of which all but the last
are among the listed ones. -/
def pausesUntil (r : Recurring) (limit : Nat) : Nat :=
  2 * (limit + r.durations.length + 1)

/-- Lets the work run up to and including an instant. -/
def runUntil (r : Recurring) (limit : Nat) : Recurring × List Beat :=
  let (work, beats) := r.work.runUntil (duration r.durations) limit (r.pausesUntil limit)
  ({ r with now := limit, work, finished := work.cancelled }, beats)

/-- Lets the work run as far as it can now. -/
def settle (r : Recurring) : Recurring × List Beat :=
  r.runUntil r.now

/-- Takes a command. Time passes only for work that has been settled. -/
def command (r : Recurring) : RecurringCommand → Recurring × List Beat
  | .advance ms =>
    let (r₁, beats) := r.settle
    let (r₂, more) := r₁.runUntil (r.now + ms)
    (r₂, beats ++ more)
  | .cancel => ({ r with work := r.work.cancel }, [])
  | .drop => ({ r with work := r.work.cancel, held := false }, [])
  | .spawn => (r, [])

/-- Takes a command and, unless it is to be looked at before, lets the work run. Executions are
numbered anew with each command. -/
def obey (c : RecurringCommand) (settled : Bool) (r : Recurring) : Recurring × List Beat :=
  let (r₁, beats) := { r with work := { r.work with begun := 0 } }.command c
  if settled then
    let (r₂, more) := r₁.settle
    (r₂, beats ++ more)
  else (r₁, beats)

/-- The times at which executions began. -/
def starts (beats : List Beat) : List Nat :=
  beats.filterMap fun
    | .started t => some t
    | .ended _ => none

/-- The times at which executions ended. -/
def ends (beats : List Beat) : List Nat :=
  beats.filterMap fun
    | .started _ => none
    | .ended t => some t

end Recurring

end TopicRelay.Simulation
