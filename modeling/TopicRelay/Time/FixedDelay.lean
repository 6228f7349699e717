/-
Recurring work with a fixed delay: an execution begins, takes its time, and the next one begins a
fixed delay after it ended. Executions never overlap. Once cancelled, the work goes no further.
-/

namespace TopicRelay.Time

/-- What recurring work waits for, and until when. -/
inductive Pause where
  | resting (due : Nat)
  | working (due : Nat)
  deriving Repr, DecidableEq, Inhabited

/-- When a pause is over. -/
def Pause.due : Pause → Nat
  | .resting t => t
  | .working t => t

/-- The begin or the end of an execution. -/
inductive Beat where
  | started (time : Nat)
  | ended (time : Nat)
  deriving Repr, DecidableEq, Inhabited

/-- Recurring work. -/
structure FixedDelay where
  delay : Nat
  pause : Pause
  /-- How many executions have begun. -/
  begun : Nat := 0
  cancelled : Bool := false
  deriving Repr, DecidableEq, Inhabited

namespace FixedDelay

/-- Work that begins after an initial delay. -/
def schedule (now initial delay : Nat) : FixedDelay :=
  { delay, pause := .resting (now + initial) }

/-- Goes past the end of a pause. An execution without duration ends as it begins. -/
def fire (durations : Nat → Nat) (w : FixedDelay) : FixedDelay × List Beat :=
  match w.pause with
  | .working t => ({ w with pause := .resting (t + w.delay) }, [.ended t])
  | .resting t =>
    let d := durations w.begun
    if d = 0 then
      ({ w with pause := .resting (t + w.delay), begun := w.begun + 1 }, [.started t, .ended t])
    else ({ w with pause := .working (t + d), begun := w.begun + 1 }, [.started t])

/-- Goes past the ends of pauses up to and including an instant, at most so many of them. -/
def runUntil (durations : Nat → Nat) (limit : Nat) : Nat → FixedDelay → FixedDelay × List Beat
  | 0, w => (w, [])
  | n + 1, w =>
    if w.cancelled || decide (limit < w.pause.due) then (w, [])
    else
      let (w₁, beats) := w.fire durations
      let (w₂, more) := w₁.runUntil durations limit n
      (w₂, beats ++ more)

/-- Cancels the work. -/
def cancel (w : FixedDelay) : FixedDelay :=
  { w with cancelled := true }

end FixedDelay

end TopicRelay.Time
