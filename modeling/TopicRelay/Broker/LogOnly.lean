/-
The log-only broker: it opens every session, registers each service and makes it active at once,
and writes every topic and every update to the log.
-/
import TopicRelay.Broker.Session
import TopicRelay.Log.Entry
import TopicRelay.Publication.Registry
import TopicRelay.Publication.Target

namespace TopicRelay.Broker.LogOnly

open TopicRelay.Config TopicRelay.Content TopicRelay.Log TopicRelay.Publication TopicRelay.Text

/-- A service that takes the place of another closes its source, and every service is active. -/
def policy : Policy :=
  { closesReplaced := true, activates := true }

/-- The session of a number, counted from 0. -/
def session (number : Nat) (broker : BrokerConfig) (trust : Option Trust.Context) : Session :=
  { id := "log-" ++ toString (number + 1), number, client := .logOnly number, broker, trust }

/-! ## The publishing client -/

section Client

variable {α η : Type}

/-- The target of an endpoint of a service that is registered. -/
def bind (r : Registry η) (s : ServiceConfig) (e : EndpointConfig) (kind : PayloadKind) :
    Except PublishingError Target :=
  if r.isRegistered s.name then .ok (.of s e kind) else .error (.serviceNotActive s.name)

/-- Performs a task if a service is registered, and tells whether it did. -/
def whileRegistered (r : Registry η) (s : ServiceConfig) (task : α → α) (a : α) : α × Bool :=
  if r.isRegistered s.name then (task a, true) else (a, false)

end Client

/-! ## Log entries -/

/-- An entry of the log-only broker. -/
def entry (level : Level) (event : String) (fields : List (String × Field)) : Entry :=
  { level, event, component := "log_broker", fields }

/-- An entry that a session has been opened. -/
def openedEntry (s : Session) : Entry :=
  entry .info "log_broker_session_open"
    [("session_id", .text s.id), ("broker", .text s.broker.address),
      ("truststore", .text (describeOptional (s.trust.map (·.truststore))))]

/-- An entry that a session has been closed. -/
def closedEntry (id : String) : Entry :=
  entry .info "log_broker_session_close" [("session_id", .text id)]

/-- An entry that a service has been announced. -/
def announcedEntry (s : ServiceConfig) : Entry :=
  entry .debug "log_broker_topic_add"
    [("service", .text s.name), ("topic_path", .text s.topicPathRoot)]

/-- An entry that the topic of an endpoint has been added. -/
def topicEntry (s : ServiceConfig) (e : EndpointConfig) (kind : PayloadKind) (seeded : Bool) :
    Entry :=
  entry .info "log_broker_topic_add"
    [("service", .text s.name), ("endpoint", .text e.name), ("topic_path", .text (s.topicPath e)),
      ("endpoint_type", .text kind.identifier), ("seeded", .flag seeded)]

/-- An entry that a topic has been updated. -/
def updatedEntry (t : Target) (v : TopicValue) : Entry :=
  entry .info "log_broker_update"
    [("topic_path", .text t.topicPath), ("bytes", .count v.octets.length),
      ("value", .text (Utf8.decodeLossy v.octets))]

/-- An entry that a service has been removed. -/
def removedEntry (service : String) : Entry :=
  entry .info "log_broker_service_remove" [("service", .text service)]

end TopicRelay.Broker.LogOnly
