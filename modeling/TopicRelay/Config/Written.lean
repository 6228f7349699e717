/-
The written form of a configuration: JSON with every field in its order, defaults included.
-/
import TopicRelay.Config.Model
import TopicRelay.Json.Writer

namespace TopicRelay.Config

open TopicRelay.Text

/-- A written object with the given members, in their order. -/
def writeFields : List (String × List Char) → List Char
  | [] => ['\x7b', '\x7d']
  | (name, v) :: rest =>
    '\x7b' :: Json.writeText name ++ ':' :: v
      ++ rest.flatMap (fun (name, v) => ',' :: Json.writeText name ++ ':' :: v) ++ ['\x7d']

/-- A written array. -/
def writeList {α : Type} (write : α → List Char) : List α → List Char
  | [] => ['[', ']']
  | a :: as => '[' :: write a ++ as.flatMap (fun b => ',' :: write b) ++ [']']

/-- A written value that may be absent. -/
def writeOptional {α : Type} (write : α → List Char) : Option α → List Char
  | none => "null".toList
  | some a => write a

/-- A written boolean. -/
def writeBool (b : Bool) : List Char :=
  if b then "true".toList else "false".toList

/-- A written endpoint. -/
def EndpointConfig.write (e : EndpointConfig) : List Char :=
  writeFields [
    ("name", Json.writeText e.name),
    ("url", Json.writeText e.url),
    ("topic_path", Json.writeText e.topicPath),
    ("produces", Json.writeText e.produces)]

/-- Written credentials. -/
def BasicAuthentication.write (b : BasicAuthentication) : List Char :=
  writeFields [("userid", Json.writeText b.userid), ("password", Json.writeText b.password)]

/-- Written security settings. -/
def SecurityConfig.write (s : SecurityConfig) : List Char :=
  writeFields [("basic", writeOptional BasicAuthentication.write s.basic)]

/-- A written service. -/
def ServiceConfig.write (s : ServiceConfig) : List Char :=
  writeFields [
    ("name", Json.writeText s.name),
    ("host", Json.writeText s.host),
    ("port", decimal s.port.toNat),
    ("secure", writeBool s.secure),
    ("endpoints", writeList EndpointConfig.write s.endpoints),
    ("poll_period_ms", decimal s.pollPeriodMs.toNat),
    ("topic_path_root", Json.writeText s.topicPathRoot),
    ("security", s.security.write)]

/-- A written broker. -/
def BrokerConfig.write (b : BrokerConfig) : List Char :=
  writeFields [
    ("host", Json.writeText b.host),
    ("port", decimal b.port.toNat),
    ("secure", writeBool b.secure),
    ("principal", writeOptional Json.writeText b.principal),
    ("password", writeOptional Json.writeText b.password),
    ("connection_timeout_ms", decimal b.connectionTimeoutMs.toNat),
    ("reconnection_timeout_ms", decimal b.reconnectionTimeoutMs.toNat),
    ("maximum_message_size", decimal b.maximumMessageSize.toNat),
    ("input_buffer_size", decimal b.inputBufferSize.toNat),
    ("output_buffer_size", decimal b.outputBufferSize.toNat),
    ("recovery_buffer_size", decimal b.recoveryBufferSize.toNat)]

/-- Written metrics settings. -/
def MetricsConfig.write (m : MetricsConfig) : List Char :=
  writeFields [
    ("logging", writeBool m.logging),
    ("logging_interval_ms", decimal m.loggingIntervalMs.toNat)]

/-- A written model. -/
def Model.write (m : Model) : List Char :=
  writeFields [
    ("active", writeBool m.active),
    ("broker", m.broker.write),
    ("services", writeList ServiceConfig.write m.services),
    ("truststore", writeOptional Json.writeText m.truststore),
    ("metrics", m.metrics.write)]

end TopicRelay.Config
