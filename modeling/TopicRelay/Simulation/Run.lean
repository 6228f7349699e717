/-
Running the world: tasks take turns until none can run, and the clock goes from timer to timer. A
session that nobody holds any more is let go, which cancels its cycles.
-/
import TopicRelay.Simulation.Governance

namespace TopicRelay.Simulation.World

open TopicRelay.Config TopicRelay.Control TopicRelay.Polling TopicRelay.Publication

/-! ## Sessions that nobody holds -/

/-- The sessions that hang on the sources kept by a registry. -/
def heldBySources (r : Registry Hook) : List SessionKey :=
  (r.kept.filterMap fun p => r.source? p.2).flatMap fun s => s.onActive.map (·.session)

/-- The sessions that hang on tasks. -/
def heldByTasks (w : World) : List SessionKey :=
  w.agenda.tasks.filterMap fun t =>
    match t.work with
    | .pass p => some p.session
    | _ => none

/-- The sessions that somebody holds: a name, a list of running services, an update source or a
task. -/
def heldSessions (w : World) : List SessionKey :=
  w.named.map (·.2)
    ++ ((w.lifecycle.map (·.services.running)).getD []).map (·.session)
    ++ ((w.manager.map (·.running)).getD []).map (·.session)
    ++ heldBySources w.standIn
    ++ w.logClients.flatMap heldBySources
    ++ w.heldByTasks

/-- Whether an execution of a cycle of a session is under way, which keeps the session. -/
def hasRequest (m : Member) : Bool :=
  m.session.cycles.any fun c =>
    match c.stage with
    | .resting _ => false
    | _ => true

/-- Lets the sessions go that nobody holds. -/
def letGo (w : World) : World :=
  let held := w.heldSessions
  let (kept, gone) := w.members.partition fun m => held.contains m.key || hasRequest m
  let agenda := gone.foldl
    (fun a m => a.abortWhere fun work =>
      match work with
      | .cycle key _ => key == m.key
      | _ => false)
    w.agenda
  { w with members := kept, agenda }

/-! ## Turns -/

/-- What becomes of a task after its turn. -/
inductive Verdict where
  | ended
  /-- The task goes on with some work and is woken at some instants. -/
  | waits (work : Work) (dues : List Nat)

/-- Gives a task its turn. -/
def turn (id : Nat) (work : Work) (w : World) : World × Verdict :=
  match work with
  | .cycle key epoch =>
    let (w, due) := w.turnCycle key epoch
    (w, .waits work due.toList)
  | .metrics t none => (w, .waits (.metrics t (some (w.now + t.interval))) [w.now + t.interval])
  | .metrics t (some due) =>
    if due ≤ w.now then
      (w.say w.metrics.summary,
        .waits (.metrics t (some (w.now + t.interval))) [w.now + t.interval])
    else (w, .waits work [])
  | .pass p =>
    let (w, after, dues) := w.turnPass p
    match after with
    | some p => (w, .waits (.pass p) dues)
    | none => (w, .ended)
  | .opening o =>
    let (w, after) := w.turnOpening id o
    match after with
    | some o => (w, .waits (.opening o) [])
    | none => (w, .ended)
  | .notification generation n => ((w.drive (.notified generation n)).1, .ended)

/-- Takes a task away that has ended or been aborted. -/
def dropTask (id : Nat) (work : Work) (w : World) : World :=
  let w := match work with
    | .cycle key epoch => w.dropCycle key epoch
    | _ => w
  { w with agenda := w.agenda.finish id }

/-- Puts a task back that waits, unless it was aborted in its turn. -/
def suspend (id : Nat) (work : Work) (dues : List Nat) (w : World) : World :=
  let aborted := (w.agenda.task? id).any (·.aborted)
  let agenda := dues.foldl (fun a due => a.sleep id due) (w.agenda.setWork id work)
  let w := { w with agenda := { agenda with current := none } }
  if aborted then w.dropTask id work else w

/-- Runs the task that stands first in the queue. -/
def runNext (w : World) : World :=
  match w.agenda.pop? with
  | none => { w with agenda := { w.agenda with queue := w.agenda.queue.tail } }
  | some (t, agenda) =>
    if t.aborted then
      ({ w with agenda := { agenda with current := none } }.dropTask t.id t.work).letGo
    else
      let (w, verdict) := { w with agenda }.turn t.id t.work
      match verdict with
      | .waits work dues => (w.suspend t.id work dues).letGo
      | .ended =>
        ({ w with agenda := { w.agenda with current := none } }.dropTask t.id t.work).letGo

/-- Runs the tasks that stand in the queue, each once. -/
def runRound (w : World) : World :=
  w.agenda.queue.foldl (fun w _ => w.runNext) w

/-- Runs rounds until no task can run. -/
def runRounds : Nat → World → World
  | 0, w => w
  | n + 1, w => if w.agenda.queue.isEmpty then w else w.runRound.runRounds n

/-- How many rounds there are at one instant, at most: work brings up other work a few times over
(a notification, the end of an attempt, a pass, a cycle, a cancelled task), and then waits. -/
def roundsAtOnce : Nat := 64

/-- Lets everything run that can run now. -/
def settle (w : World) : World :=
  w.runRounds roundsAtOnce

/-! ## Time -/

/-- Goes to an instant and wakes what is due. -/
def wakeAt (now : Nat) (w : World) : World :=
  { w with now, agenda := w.agenda.fire now }

/-- Goes from timer to timer while they come before an instant, or up to and including it. -/
def runTimers (within : Nat → Bool) : Nat → World → World
  | 0, w => w
  | n + 1, w =>
    match w.agenda.nextDue? with
    | none => w
    | some due => if within due then ((w.wakeAt due).settle).runTimers within n else w

/-- Lets a time pass. -/
def advance (ms : Nat) (w : World) : World :=
  let target := w.now + ms
  let w := w.settle.runTimers (fun due => decide (due ≤ target)) (ms + 1)
  { w with now := target }

/-- Lets a time pass, up to the moment before what is due at its end runs. -/
def advanceBefore (ms : Nat) (w : World) : World :=
  let target := w.now + ms
  let w := w.settle.runTimers (fun due => decide (due < target)) (ms + 1)
  w.wakeAt target

/-- How often a condition is looked at. -/
def lookEvery : Nat := 5

/-- Waits until a condition holds, looking at it again and again, or until a deadline. -/
def waitFor (condition : World → Bool) (deadline : Nat) : Nat → World → World × Bool
  | 0, w => (w, condition w)
  | n + 1, w =>
    if condition w then (w, true)
    else if deadline ≤ w.now then (w, false)
    else (w.advanceBefore lookEvery).waitFor condition deadline n

end TopicRelay.Simulation.World
