/-
Hooks that call their source back. Hooks run one after the other once the call that caused them is
through, and a call made by a hook is through, with all that it causes, before the next hook runs.
So what is still to be done is an agenda: a call puts its hooks in front of the rest, a hook its
calls. The history tells what happened in order.
-/
import TopicRelay.Publication.Source

namespace TopicRelay.Publication

/-- Something still to be done. -/
inductive Item (η : Type) where
  | call (c : Call η)
  | hook (h : η)
  deriving Repr, DecidableEq

/-- Something that happened to a source. -/
inductive Happening (η : Type) where
  | moved (t : Transition)
  /-- A hook was attached while the source was in a state. -/
  | attached (on : Occasion) (hook : η) (state : SourceState)
  | refused (e : PublishingError)
  | ran (hook : η)
  deriving Repr, DecidableEq

/-- What a call alone adds to the history. -/
def happenings {η : Type} (s : Source η) (c : Call η) : List (Happening η) :=
  let r := s.call c
  let attached := match c with
    | .act _ => []
    | .attach on hook => [.attached on hook s.state]
  attached ++ (r.transition.map .moved).toList ++ (r.refused.map .refused).toList

/-- A source, what its hooks know, and the history. -/
structure Execution (σ η : Type) where
  source : Source η
  host : σ
  history : List (Happening η) := []

/-- Puts earlier happenings in front of the history. -/
def Execution.after {σ η : Type} (earlier : List (Happening η)) (x : Execution σ η) :
    Execution σ η :=
  { x with history := earlier ++ x.history }

/-- Works off an agenda, where `behave` tells what a hook knows after it ran and which calls it made.
There is no execution if more than the given number of items come up, as hooks may call each other
for ever. -/
def execute {σ η : Type} (behave : σ → η → σ × List (Call η)) :
    Nat → Source η → σ → List (Item η) → Option (Execution σ η)
  | _, s, w, [] => some { source := s, host := w }
  | 0, _, _, _ :: _ => none
  | n + 1, s, w, .call c :: rest =>
    let r := s.call c
    (execute behave n r.source w (r.hooks.map .hook ++ rest)).map (·.after (happenings s c))
  | n + 1, s, w, .hook h :: rest =>
    let (w', calls) := behave w h
    (execute behave n s w' (calls.map .call ++ rest)).map (·.after [.ran h])

/-! ## Hooks with one follow-up -/

/-- A hook that, the first time it runs, performs an action on its source. -/
structure OnceHook where
  label : String
  /-- Tells hooks of the same label apart. -/
  serial : Nat
  followUp : Option Action := none
  deriving Repr, DecidableEq, Inhabited

/-- Performs the follow-up of a hook whose serial is not among those that ran. -/
def OnceHook.behave (ran : List Nat) (h : OnceHook) : List Nat × List (Call OnceHook) :=
  if ran.contains h.serial then (ran, [])
  else (h.serial :: ran, (h.followUp.map .act).toList)

/-- How many items a call can bring up: each hook follows up once, and each call runs at most all
hooks. -/
def onceBound (s : Source OnceHook) : Nat :=
  let hooks := s.onStandby.length + s.onActive.length + s.onClose.length + 1
  (hooks + 1) * (hooks + 1)

/-- Calls a source whose hooks follow up once. -/
def callOnce (s : Source OnceHook) (ran : List Nat) (c : Call OnceHook) :
    Execution (List Nat) OnceHook :=
  (execute OnceHook.behave (onceBound s) s ran [.call c]).getD { source := s, host := ran }

end TopicRelay.Publication
