/-
Agendas: tasks that take turns on one thread. A task runs until it waits; tasks that can run stand in
a queue, each at most once, in the order in which they were woken. Timers wake tasks at their
instants, those of one instant in the order in which they were set. An aborted task is woken once
more, to be dropped instead of run.
-/

namespace TopicRelay.Time

/-- A task: what it does and whether it has been aborted. -/
structure Task (ω : Type) where
  id : Nat
  work : ω
  aborted : Bool := false
  deriving Repr, Inhabited

/-- A time at which a task is woken. -/
structure Timer where
  due : Nat
  task : Nat
  deriving Repr, DecidableEq, Inhabited

/-- Tasks, the queue of those that can run, and the timers of those that wait. -/
structure Agenda (ω : Type) where
  tasks : List (Task ω) := []
  queue : List Nat := []
  timers : List Timer := []
  /-- The task that runs right now. -/
  current : Option Nat := none
  nextId : Nat := 0
  deriving Repr, Inhabited

namespace Agenda

variable {ω : Type}

/-- The task of a number. -/
def task? (a : Agenda ω) (id : Nat) : Option (Task ω) :=
  a.tasks.find? fun t => t.id == id

/-- Adds a task, which can run. -/
def spawn (work : ω) (a : Agenda ω) : Agenda ω :=
  { a with
    tasks := a.tasks ++ [{ id := a.nextId, work }]
    queue := a.queue ++ [a.nextId]
    nextId := a.nextId + 1 }

/-- Puts a task into the queue, if it is not there. -/
def wake (id : Nat) (a : Agenda ω) : Agenda ω :=
  if a.queue.contains id then a else { a with queue := a.queue ++ [id] }

/-- Changes the task of a number. -/
def mapTask (id : Nat) (f : Task ω → Task ω) (a : Agenda ω) : Agenda ω :=
  { a with tasks := a.tasks.map fun t => if t.id == id then f t else t }

/-- Changes what a task does. -/
def setWork (id : Nat) (work : ω) (a : Agenda ω) : Agenda ω :=
  a.mapTask id fun t => { t with work }

/-- Aborts a task. It is dropped when it next waits, or when its turn comes. -/
def abort (id : Nat) (a : Agenda ω) : Agenda ω :=
  let marked := a.mapTask id fun t => { t with aborted := true }
  if a.current = some id ∨ (a.task? id).isNone then marked else marked.wake id

/-- Aborts the tasks whose work is of some kind. -/
def abortWhere (p : ω → Bool) (a : Agenda ω) : Agenda ω :=
  (a.tasks.filter fun t => p t.work).foldl (fun a t => a.abort t.id) a

/-- Sets a timer for a task. -/
def sleep (id due : Nat) (a : Agenda ω) : Agenda ω :=
  { a with timers := a.timers ++ [{ due, task := id }] }

/-- Takes a task and its timers away. -/
def finish (id : Nat) (a : Agenda ω) : Agenda ω :=
  { a with
    tasks := a.tasks.filter fun t => t.id != id
    queue := a.queue.filter fun n => n != id
    timers := a.timers.filter fun t => t.task != id }

/-- The next task to run, and the agenda while it runs. -/
def pop? (a : Agenda ω) : Option (Task ω × Agenda ω) :=
  match a.queue with
  | [] => none
  | id :: rest =>
    match a.task? id with
    | none => none
    | some t => some (t, { a with queue := rest, current := some id })

/-- The instant of the earliest timer. -/
def nextDue? (a : Agenda ω) : Option Nat :=
  (a.timers.map (·.due)).min?

/-- Wakes the tasks whose timers are due. -/
def fire (now : Nat) (a : Agenda ω) : Agenda ω :=
  let due := a.timers.filter fun t => decide (t.due ≤ now)
  due.foldl (fun a t => a.wake t.task)
    { a with timers := a.timers.filter fun t => decide (now < t.due) }

/-! ## Laws -/

@[simp]
theorem timers_wake (a : Agenda ω) (id : Nat) : (a.wake id).timers = a.timers := by
  unfold wake; split <;> rfl

@[simp]
theorem tasks_wake (a : Agenda ω) (id : Nat) : (a.wake id).tasks = a.tasks := by
  unfold wake; split <;> rfl

end Agenda

end TopicRelay.Time
