/-
Update targets: the topic that the values of one endpoint go to. A target takes values of the kind
of its topic alone.
-/
import TopicRelay.Config.Model
import TopicRelay.Content.Kind
import TopicRelay.Publication.Error

namespace TopicRelay.Publication

open TopicRelay.Config TopicRelay.Content

/-- The topic of one endpoint. -/
structure Target where
  topicPath : String
  kind : TopicKind
  deriving Repr, DecidableEq, Inhabited

namespace Target

/-- The topic of an endpoint whose payloads are of a kind. -/
def of (s : ServiceConfig) (e : EndpointConfig) (kind : PayloadKind) : Target :=
  { topicPath := s.topicPath e, kind := kind.topicKind }

/-- Refuses a value of another kind than the topic's. -/
def check (t : Target) (v : TopicValue) : Except PublishingError Unit :=
  if v.topicKind = t.kind then .ok ()
  else .error (.valueMismatch t.topicPath t.kind v.topicKind)

end Target

end TopicRelay.Publication
