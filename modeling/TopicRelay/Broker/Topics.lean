/-
The creation of topics: that a topic is there already is as good as its creation.
-/

namespace TopicRelay.Broker

/-- How the creation of a topic succeeds. -/
inductive TopicCreation where
  | created
  | alreadyExists
  deriving Repr, DecidableEq, Inhabited

/-- The name of an outcome. -/
def TopicCreation.name : TopicCreation → String
  | .created => "Created"
  | .alreadyExists => "AlreadyExists"

/-- Why the creation of a topic fails. -/
inductive TopicCreationError where
  | rejected (topicPath reason : String)
  | permissionDenied (topicPath : String)
  | sessionClosed
  deriving Repr, DecidableEq, Inhabited

/-- The text of an error. -/
def TopicCreationError.message : TopicCreationError → String
  | .rejected topicPath reason => "topic " ++ topicPath ++ " was rejected: " ++ reason
  | .permissionDenied topicPath => "permission denied creating topic " ++ topicPath
  | .sessionClosed => "broker session is closed"

end TopicRelay.Broker
