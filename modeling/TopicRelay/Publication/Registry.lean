/-
Registries: the update sources that a publishing client has handed out, and which of them it keeps
under the names of their services. A service whose source is kept and not closed is registered.
-/
import TopicRelay.Config.Model
import TopicRelay.Log.Entry
import TopicRelay.Publication.Source

namespace TopicRelay.Publication

open TopicRelay.Config

/-- How a client treats a service that is added. -/
structure Policy where
  /-- Whether the source that a new one takes the place of is closed. -/
  closesReplaced : Bool
  /-- Whether the new source is made active at once. -/
  activates : Bool
  deriving Repr, DecidableEq

/-- Something that happened to one of the sources. -/
inductive Notice (η : Type) where
  | moved (topicPath : String) (t : Transition)
  | ran (hook : η)
  deriving Repr, DecidableEq

/-- The log entry of a change of state. -/
def Transition.entry (topicPath : String) (t : Transition) : Log.Entry :=
  { level := .debug, event := "update_source_transition", component := "update_source"
    fields := [
      ("topic_path", .text topicPath),
      ("from_state", .text t.left.name),
      ("to_state", .text t.entered.name)] }

/-- The sources handed out, by number, and the numbers of those kept, by the names of services. -/
structure Registry (η : Type) where
  handed : List (Source η) := []
  kept : List (String × Nat) := []
  deriving Repr, DecidableEq, Inhabited

namespace Registry

variable {η : Type}

/-- The registry of a client that has handed out nothing. -/
def empty : Registry η := {}

/-- The source of a number. -/
def source? (r : Registry η) (n : Nat) : Option (Source η) :=
  r.handed[n]?

/-- The number of the source kept for a service. -/
def number? (r : Registry η) (service : String) : Option Nat :=
  r.kept.lookup service

/-- The source kept for a service. -/
def sourceOf? (r : Registry η) (service : String) : Option (Source η) :=
  (r.number? service).bind r.source?

/-- Whether a source is kept for a service and not closed. -/
def isRegistered (r : Registry η) (service : String) : Bool :=
  match r.sourceOf? service with
  | some s => s.state != .closed
  | none => false

/-- What a reaction tells. -/
def notices (rx : Reaction η) : List (Notice η) :=
  (rx.transition.map (.moved rx.source.topicPath)).toList ++ rx.hooks.map .ran

/-- Calls the source of a number; nothing happens if there is none. Hooks do not call back. -/
def call (r : Registry η) (n : Nat) (c : Call η) :
    Registry η × List (Notice η) × Option PublishingError :=
  match r.source? n with
  | none => (r, [], none)
  | some s =>
    let rx := s.call c
    ({ r with handed := r.handed.set n rx.source }, notices rx, rx.refused)

/-- Performs actions on the source of a number, one after the other. -/
def perform (r : Registry η) (n : Nat) : List Action → Registry η × List (Notice η)
  | [] => (r, [])
  | a :: rest =>
    let (r₁, told, _) := r.call n (.act a)
    let (r₂, more) := r₁.perform n rest
    (r₂, told ++ more)

/-- Attaches hooks to the source of a number, one after the other. -/
def attachAll (r : Registry η) (n : Nat) : List (Occasion × η) → Registry η × List (Notice η)
  | [] => (r, [])
  | (on, h) :: rest =>
    let (r₁, told, _) := r.call n (.attach on h)
    let (r₂, more) := r₁.attachAll n rest
    (r₂, told ++ more)

/-- Keeps a number under the name of a service, in place of an earlier one. -/
def keep (service : String) (n : Nat) (kept : List (String × Nat)) : List (String × Nat) :=
  (service, n) :: kept.filter fun p => p.1 != service

/-- Adds a source for a service and registers it. -/
def add (policy : Policy) (r : Registry η) (s : ServiceConfig) :
    Registry η × Nat × List (Notice η) :=
  let n := r.handed.length
  let replaced := if policy.closesReplaced then r.number? s.name else none
  let fresh : Registry η :=
    { handed := r.handed ++ [{ topicPath := s.topicPathRoot }], kept := keep s.name n r.kept }
  let (r₁, told₁) := match replaced with
    | some m => fresh.perform m [.close]
    | none => (fresh, [])
  let (r₂, told₂) := r₁.perform n (if policy.activates then [.register, .activate] else [.register])
  (r₂, n, told₁ ++ told₂)

/-- Forgets the source of a service and closes it. -/
def remove (r : Registry η) (service : String) :
    Registry η × List (Notice η) × Except PublishingError Unit :=
  match r.number? service with
  | none => (r, [], .error (.serviceNotActive service))
  | some n =>
    let forgotten : Registry η := { r with kept := r.kept.filter fun p => p.1 != service }
    let (r₁, told) := forgotten.perform n [.close]
    (r₁, told, .ok ())

/-- Closes the sources of some numbers, one after the other. -/
def closeEach (r : Registry η) : List Nat → Registry η × List (Notice η)
  | [] => (r, [])
  | n :: ns =>
    let (r₁, told) := r.perform n [.close]
    let (r₂, more) := r₁.closeEach ns
    (r₂, told ++ more)

/-- Forgets and closes every source that is kept. -/
def closeAll (r : Registry η) : Registry η × List (Notice η) :=
  let emptied : Registry η := { r with kept := [] }
  emptied.closeEach (r.kept.reverse.map fun p => p.2)

end Registry

end TopicRelay.Publication
