/-
Update sources: the registration of one service with the broker. A source is registered once, goes
to and fro between standby and active, and is closed for good. Hooks are attached to the states
standby, active and closed; entering such a state runs the hooks attached so far, and a hook that is
attached while the source is in the state runs at once.
-/
import TopicRelay.Publication.Error
import TopicRelay.Text.Quoted

namespace TopicRelay.Publication

/-- Where a source stands. -/
inductive SourceState where
  | unregistered
  | standby
  | active
  | closed
  deriving Repr, DecidableEq, Inhabited

/-- The name of a state. -/
def SourceState.name : SourceState → String
  | .unregistered => "Unregistered"
  | .standby => "Standby"
  | .active => "Active"
  | .closed => "Closed"

/-- The states that hooks are attached to. -/
inductive Occasion where
  | standby
  | active
  | closed
  deriving Repr, DecidableEq, Inhabited

/-- The state of an occasion. -/
def Occasion.state : Occasion → SourceState
  | .standby => .standby
  | .active => .active
  | .closed => .closed

/-- What a client or the broker does with a source. -/
inductive Action where
  | register
  | activate
  | standby
  | close
  deriving Repr, DecidableEq, Inhabited

/-- A call of a source: an action, or a hook attached to an occasion. -/
inductive Call (η : Type) where
  | act (a : Action)
  | attach (on : Occasion) (hook : η)
  deriving Repr, DecidableEq

/-- The registration of one service. -/
structure Source (η : Type) where
  topicPath : String
  state : SourceState := .unregistered
  onStandby : List η := []
  onActive : List η := []
  onClose : List η := []
  deriving Repr, DecidableEq, Inhabited

/-- A change of state. -/
structure Transition where
  left : SourceState
  entered : SourceState
  deriving Repr, DecidableEq, Inhabited

/-- What a call makes of a source: its next form, the change of state if there is one, the hooks to
run after it, and why it was refused if it was. -/
structure Reaction (η : Type) where
  source : Source η
  transition : Option Transition := none
  hooks : List η := []
  refused : Option PublishingError := none
  deriving Repr, DecidableEq

namespace Source

variable {η : Type}

/-- The hooks of an occasion, in the order in which they were attached. -/
def hooks (s : Source η) : Occasion → List η
  | .standby => s.onStandby
  | .active => s.onActive
  | .closed => s.onClose

/-- The source with one more hook. -/
def withHook (s : Source η) (on : Occasion) (hook : η) : Source η :=
  match on with
  | .standby => { s with onStandby := s.onStandby ++ [hook] }
  | .active => { s with onActive := s.onActive ++ [hook] }
  | .closed => { s with onClose := s.onClose ++ [hook] }

/-- Enters the state of an occasion. -/
def enter (s : Source η) (on : Occasion) : Reaction η :=
  { source := { s with state := on.state }
    transition := some ⟨s.state, on.state⟩
    hooks := s.hooks on }

/-- Leaves the source as it is. -/
def ignore (s : Source η) : Reaction η :=
  { source := s }

/-- What an action makes of a source. -/
def act (s : Source η) : Action → Reaction η
  | .register =>
    if s.state = .unregistered then s.enter .standby
    else { source := s, refused := some (.alreadyRegistered s.topicPath) }
  | .activate => if s.state = .standby then s.enter .active else s.ignore
  | .standby => if s.state = .active then s.enter .standby else s.ignore
  | .close => if s.state = .closed then s.ignore else s.enter .closed

/-- What a call makes of a source. -/
def call (s : Source η) : Call η → Reaction η
  | .act a => s.act a
  | .attach on hook =>
    { source := s.withHook on hook, hooks := if s.state = on.state then [hook] else [] }

/-- The source in diagnostics. -/
def describe (s : Source η) : String :=
  "UpdateSource \x7b topic_path: " ++ Text.Quoted.encode s.topicPath ++ ", state: "
    ++ s.state.name ++ " \x7d"

/-! ## Laws -/

@[simp]
theorem hooks_withHook (s : Source η) (on o : Occasion) (hook : η) :
    (s.withHook on hook).hooks o = if o = on then s.hooks o ++ [hook] else s.hooks o := by
  cases on <;> cases o <;> rfl

@[simp]
theorem state_withHook (s : Source η) (on : Occasion) (hook : η) :
    (s.withHook on hook).state = s.state := by
  cases on <;> rfl

end Source

end TopicRelay.Publication
