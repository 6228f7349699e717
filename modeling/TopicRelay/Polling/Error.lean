/-
Why a service is not polled, or one of its endpoints is not bound to its topic.
-/
import TopicRelay.Content.Kind
import TopicRelay.Publication.Error

namespace TopicRelay.Polling

open TopicRelay.Content TopicRelay.Publication

/-- Why a service is not polled, or one of its endpoints is not bound to its topic. -/
inductive ServiceError where
  | invalidPollPeriod (service : String) (pollPeriodMs : Nat)
  | contentType (e : ContentTypeError)
  | publishing (e : PublishingError)
  deriving Repr, DecidableEq, Inhabited

/-- The text of an error. -/
def ServiceError.message : ServiceError → String
  | .invalidPollPeriod service pollPeriodMs =>
    "service " ++ service ++ " has an invalid poll period of " ++ toString pollPeriodMs ++ " ms"
  | .contentType e => e.message
  | .publishing e => e.message

end TopicRelay.Polling
