/-
Why the broker refuses a publication or a registration.
-/
import TopicRelay.Content.TopicValue

namespace TopicRelay.Publication

open TopicRelay.Content

/-- Why the broker refuses a publication or a registration. -/
inductive PublishingError where
  /-- The service is not registered, or its source is closed. -/
  | serviceNotActive (service : String)
  | alreadyRegistered (topicPath : String)
  /-- The value is not of the kind that the topic takes. -/
  | valueMismatch (topicPath : String) (topic value : TopicKind)
  | updateFailed (topicPath reason : String)
  | sessionClosed
  deriving Repr, DecidableEq, Inhabited

/-- The text of an error. -/
def PublishingError.message : PublishingError → String
  | .serviceNotActive service =>
    "service " ++ service ++ " has not been added or is not active"
  | .alreadyRegistered topicPath =>
    "update source for " ++ topicPath ++ " has already been registered"
  | .valueMismatch topicPath topic value =>
    "a " ++ value.name ++ " value cannot be published to the " ++ topic.name ++ " topic "
      ++ topicPath
  | .updateFailed topicPath reason => "update of " ++ topicPath ++ " failed: " ++ reason
  | .sessionClosed => "broker session is closed"

end TopicRelay.Publication
