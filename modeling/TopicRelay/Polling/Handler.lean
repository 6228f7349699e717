/-
Handling of poll results: the response of an endpoint is read as the kind that the endpoint was
resolved to and published to the topic that it is bound to.
-/
import TopicRelay.Content.Payload
import TopicRelay.Log.Entry
import TopicRelay.Polling.Error
import TopicRelay.Publication.Target

namespace TopicRelay.Polling

open TopicRelay.Config TopicRelay.Content TopicRelay.Publication

/-- How the results of one endpoint are handled. -/
structure Handler where
  label : String
  kind : PayloadKind
  target : Target
  deriving Repr, DecidableEq, Inhabited

namespace Handler

/-- The handler of an endpoint, whose kind is pinned, with the target that `bind` gives for it. -/
def create (bind : PayloadKind → Except PublishingError Target) (s : ServiceConfig)
    (e : EndpointConfig) : Except ServiceError Handler :=
  match PayloadKind.ofIdentifier e.produces with
  | .error err => .error (.contentType err)
  | .ok kind =>
    match bind kind with
    | .error err => .error (.publishing err)
    | .ok target => .ok { label := s.endpointLabel e, kind, target }

/-- The value that a result has to publish. -/
def value (h : Handler) (result : Except PollError Response) : Except PollError TopicValue :=
  match result with
  | .ok r => h.kind.parse r
  | .error e => .error e

/-- The log entry of a handled result, given why it was not published if it was not. -/
def entry (h : Handler) (failure : Option String) : Log.Entry :=
  match failure with
  | none =>
    { level := .debug, event := "poll_publish_ok", component := "poll_handler"
      fields := [("endpoint", .text h.label), ("topic_path", .text h.target.topicPath)] }
  | some reason =>
    { level := .warn, event := "poll_publish_failed", component := "poll_handler"
      fields := [("endpoint", .text h.label), ("topic_path", .text h.target.topicPath),
        ("err", .text reason)] }

/-- Handles a result with a way to publish: the value that was published, and the log entry. -/
def handle (publish : TopicValue → Except PublishingError Unit) (h : Handler)
    (result : Except PollError Response) : Option TopicValue × Log.Entry :=
  match h.value result with
  | .error e => (none, h.entry (some e.message))
  | .ok v =>
    match publish v with
    | .ok _ => (some v, h.entry none)
    | .error e => (none, h.entry (some e.message))

end Handler

end TopicRelay.Polling
