/-
Broker sessions: what an open connection is, and the publishing client that comes with it.
-/
import TopicRelay.Config.Model
import TopicRelay.Trust.Context

namespace TopicRelay.Broker

open TopicRelay.Config

/-- The publishing clients. -/
inductive Client where
  /-- The client shared by the sessions of the stand-in broker. -/
  | standIn
  /-- The client of one log-only session. -/
  | logOnly (number : Nat)
  deriving Repr, DecidableEq, Inhabited

/-- An open connection to the broker, with what it was opened with. -/
structure Session where
  id : String
  /-- The number of the session among those opened. -/
  number : Nat
  client : Client
  broker : BrokerConfig
  trust : Option Trust.Context
  deriving Repr, DecidableEq, Inhabited

end TopicRelay.Broker
