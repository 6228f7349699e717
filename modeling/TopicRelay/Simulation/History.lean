/-
Histories: everything that a run lets be seen, with its time, the latest first.
-/
import TopicRelay.Control.Resolution
import TopicRelay.Control.Services
import TopicRelay.Publication.Source

namespace TopicRelay.Simulation

open TopicRelay.Broker TopicRelay.Config TopicRelay.Content TopicRelay.Control
open TopicRelay.Publication

/-- What a request is for. -/
inductive Purpose where
  /-- The first request of an endpoint, to bring it up. -/
  | bringUp
  | poll
  deriving Repr, DecidableEq, Inhabited

/-- A request to an endpoint of a service. -/
structure Request where
  session : SessionKey
  purpose : Purpose
  service : String
  endpoint : String
  deriving Repr, DecidableEq, Inhabited

/-- The creation of a topic as the stand-in broker is asked for it. -/
structure TopicRequest where
  session : SessionKey
  service : String
  endpoint : EndpointConfig
  topicPath : String
  kind : PayloadKind
  initial : TopicValue
  deriving Repr, Inhabited

/-- An attempt to open a broker session. -/
structure OpenRequest where
  generation : Nat
  host : String
  port : Nat
  /-- How many certificates are trusted, if any trust was given. -/
  certificates : Option Nat
  deriving Repr, DecidableEq, Inhabited

/-- Something that a run lets be seen. -/
inductive Happening where
  | logged (e : Log.Entry)
  | requested (r : Request)
  | answered (r : Request)
  /-- A request ends without an answer. -/
  | abandoned (r : Request)
  | serviceAnnounced (service : String)
  | removalAsked (service : String)
  | topicAsked (t : TopicRequest)
  /-- A value reached a topic of the stand-in broker. -/
  | published (session : Option SessionKey) (topicPath : String) (value : TopicValue)
  | notified (on : Occasion) (service : String)
  | opening (r : OpenRequest)
  | initialised (endpoint : String) (result : Except InitialisationError PayloadKind)
  | httpBuilt
  | shutdown
  deriving Repr, Inhabited

/-- What happened, with its time, the latest first. -/
abbrev History := List (Nat × Happening)

end TopicRelay.Simulation
