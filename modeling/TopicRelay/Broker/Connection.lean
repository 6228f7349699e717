/-
Connections to the broker: why one cannot be opened, and what the broker reports about an open one.
-/

namespace TopicRelay.Broker

/-- Why a session cannot be opened. -/
inductive ConnectionError where
  | connectionFailed (broker reason : String)
  | authenticationFailed (broker : String)
  | timeout (broker : String)
  deriving Repr, DecidableEq, Inhabited

/-- The text of an error. -/
def ConnectionError.message : ConnectionError → String
  | .connectionFailed broker reason => "unable to connect to " ++ broker ++ ": " ++ reason
  | .authenticationFailed broker => "authentication rejected by " ++ broker
  | .timeout broker => "connection to " ++ broker ++ " timed out"

/-- What the broker reports about a session. -/
inductive Notification where
  /-- The connection dropped, and the session with it. -/
  | lost
  /-- The broker closed the session. -/
  | closed
  deriving Repr, DecidableEq, Inhabited

/-- The name of a notification. -/
def Notification.name : Notification → String
  | .lost => "Lost"
  | .closed => "Closed"

end TopicRelay.Broker
