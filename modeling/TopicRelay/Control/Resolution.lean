/-
Resolution of an endpoint by its first answer: the kind it produces, the value that its topic is
seeded with, and its configuration with the kind pinned.
-/
import TopicRelay.Broker.Topics
import TopicRelay.Content.Payload
import TopicRelay.Content.Resolution
import TopicRelay.Log.Entry
import TopicRelay.Polling.Error
import TopicRelay.Polling.Session

namespace TopicRelay.Control

open TopicRelay.Broker TopicRelay.Config TopicRelay.Content TopicRelay.Log TopicRelay.Polling

/-- Why an endpoint is not brought up. -/
inductive InitialisationError where
  | initialRequestFailed (e : PollError)
  | initialRequestCancelled
  | contentTypeMismatch (contentType : String) (kind : PayloadKind)
  | unsupportedProduces (produces : String)
  | topicCreationFailed (e : TopicCreationError)
  | updateContextUnavailable (e : ServiceError)
  | serviceRemoved (service : String)
  deriving Repr, DecidableEq, Inhabited

namespace InitialisationError

/-- A failed first request. -/
def ofPoll : PollError → InitialisationError
  | .cancelled => .initialRequestCancelled
  | e => .initialRequestFailed e

/-- A kind that is not settled. -/
def ofContentType : ContentTypeError → InitialisationError
  | .unsupportedProduces produces => .unsupportedProduces produces
  | .mismatch contentType kind => .contentTypeMismatch contentType kind

/-- The text of an error. -/
def message : InitialisationError → String
  | .initialRequestFailed e => "initial request failed: " ++ e.message
  | .initialRequestCancelled => "initial request cancelled"
  | .contentTypeMismatch contentType kind =>
    "content type " ++ contentType ++ " does not match the declared type " ++ kind.identifier
  | .unsupportedProduces produces => "unsupported endpoint type \"" ++ produces ++ "\""
  | .topicCreationFailed e => "topic creation failed: " ++ e.message
  | .updateContextUnavailable e =>
    "unable to bind the endpoint for publishing: " ++ e.message
  | .serviceRemoved service => "service " ++ service ++ " was removed during initialisation"

end InitialisationError

/-- What the first answer of an endpoint settles. -/
structure Resolved where
  kind : PayloadKind
  initial : TopicValue
  pinned : EndpointConfig

/-- Resolves an endpoint by its first answer. -/
def resolveAnswer (e : EndpointConfig) (answer : Answer) : Except InitialisationError Resolved :=
  match answer with
  | .error err => .error (.ofPoll err)
  | .ok response =>
    match resolve e response with
    | .error err => .error (.ofContentType err)
    | .ok kind =>
      match kind.parse response with
      | .error err => .error (.ofPoll err)
      | .ok initial => .ok { kind, initial, pinned := e.pin kind.identifier }

/-! ## Log entries -/

/-- An entry about the bring-up of an endpoint. -/
def bringUpEntry (level : Level) (event : String) (s : ServiceConfig) (e : EndpointConfig)
    (fields : List (String × Field)) : Entry :=
  { level, event, component := "endpoint_initializer"
    fields := ("endpoint", .text (s.endpointLabel e)) :: fields }

/-- An entry that a bring-up begins. -/
def bringUpStarted (s : ServiceConfig) (e : EndpointConfig) : Entry :=
  bringUpEntry .debug "endpoint_init_start" s e
    [("url", .text e.url), ("produces", .text e.produces)]

/-- An entry that the topic of an endpoint is there already. -/
def topicExists (s : ServiceConfig) (e : EndpointConfig) : Entry :=
  bringUpEntry .debug "endpoint_topic_exists" s e [("topic_path", .text (s.topicPath e))]

/-- An entry about the end of a bring-up. -/
def bringUpEnded (s : ServiceConfig) (e : EndpointConfig) :
    Except InitialisationError PayloadKind → Entry
  | .ok kind =>
    bringUpEntry .info "endpoint_init_ok" s e
      [("endpoint_type", .text kind.identifier), ("topic_path", .text (s.topicPath e))]
  | .error (.serviceRemoved _) =>
    bringUpEntry .debug "endpoint_init_skipped" s e [("reason", .text "service_removed")]
  | .error err =>
    bringUpEntry .warn "endpoint_init_failed" s e
      [("url", .text e.url), ("err", .text err.message)]

end TopicRelay.Control
