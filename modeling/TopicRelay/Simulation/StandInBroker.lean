/-
The stand-in broker: it opens sessions, or fails to, and can be made to hold attempts back until
they are released one by one. A release without an attempt that waits lets the next one pass.
-/
import TopicRelay.Broker.Connection
import TopicRelay.Broker.Session
import TopicRelay.Broker.Topics

namespace TopicRelay.Simulation

open TopicRelay.Broker

/-- A session that was opened. -/
structure OpenedSession where
  session : Session
  /-- The generation whose lifecycle is told of the session's fate. -/
  generation : Nat
  closeCalls : Nat := 0
  deriving Repr, Inhabited

/-- The stand-in broker. -/
structure StandInBroker where
  holds : Bool := false
  /-- A release that the next held attempt takes. -/
  released : Bool := false
  /-- The tasks of the attempts that are held back, the longest waiting first. -/
  waiting : List Nat := []
  failure : Option ConnectionError := none
  openCalls : Nat := 0
  sessions : List OpenedSession := []
  /-- How the creation of topics for endpoints ends, by their names. -/
  outcomes : List (String × Except TopicCreationError TopicCreation) := []
  deriving Repr, Inhabited

namespace StandInBroker

/-- How the creation of a topic for an endpoint ends. -/
def outcome (b : StandInBroker) (endpoint : String) :
    Except TopicCreationError TopicCreation :=
  (b.outcomes.lookup endpoint).getD (.ok .created)

/-- Counts a call of `close` on the session of a number. -/
def close (number : Nat) (b : StandInBroker) : StandInBroker :=
  { b with
    sessions := b.sessions.map fun s =>
      if s.session.number == number then { s with closeCalls := s.closeCalls + 1 } else s }

end StandInBroker

end TopicRelay.Simulation
