/-
The configuration of an adapter. A model is one snapshot: the broker to connect to, the services to
poll with their endpoints, the truststore and the metrics log. Snapshots are compared field by field.
-/
import TopicRelay.Text.Blank
import TopicRelay.Text.Utf8

namespace TopicRelay.Config

open TopicRelay.Text

/-- The value of `produces` that asks for the payload kind to be inferred. -/
def autoProduces : String := "auto"

/-- How to reach the broker. -/
structure BrokerConfig where
  host : String
  port : UInt16 := 8080
  secure : Bool := false
  principal : Option String := none
  password : Option String := none
  connectionTimeoutMs : UInt64 := 10000
  reconnectionTimeoutMs : UInt64 := 60000
  maximumMessageSize : UInt32 := 33554432
  inputBufferSize : UInt32 := 1048576
  outputBufferSize : UInt32 := 1048576
  recoveryBufferSize : UInt32 := 256
  deriving DecidableEq, Repr, Inhabited

/-- A broker at an address, with the default of every other field. -/
def BrokerConfig.at (host : String) (port : UInt16) : BrokerConfig :=
  { host, port }

/-- One URL of a service, published to one topic. -/
structure EndpointConfig where
  name : String
  url : String
  topicPath : String
  produces : String := autoProduces
  deriving DecidableEq, Repr, Inhabited

namespace EndpointConfig

/-- Whether the payload kind is to be inferred. -/
def infersKind (e : EndpointConfig) : Bool :=
  e.produces == autoProduces

/-- The endpoint with `produces` pinned. -/
def pin (e : EndpointConfig) (produces : String) : EndpointConfig :=
  { e with produces }

end EndpointConfig

/-- The credentials of a user. -/
structure BasicAuthentication where
  userid : String
  password : String
  deriving DecidableEq, Repr, Inhabited

/-- How requests to a service authenticate. -/
structure SecurityConfig where
  basic : Option BasicAuthentication := none
  deriving DecidableEq, Repr, Inhabited

/-- A host with its poll period and the endpoints published below one topic path. -/
structure ServiceConfig where
  name : String
  host : String
  port : UInt16 := 443
  secure : Bool := true
  endpoints : List EndpointConfig := []
  pollPeriodMs : UInt64 := 60000
  topicPathRoot : String
  security : SecurityConfig := {}
  deriving DecidableEq, Repr, Inhabited

namespace ServiceConfig

/-- A service without encryption and without endpoints. -/
def plain (name host : String) (port : UInt16) (topicPathRoot : String) : ServiceConfig :=
  { name, host, port, topicPathRoot, secure := false }

/-- The service with one more endpoint. -/
def addEndpoint (s : ServiceConfig) (e : EndpointConfig) : ServiceConfig :=
  { s with endpoints := s.endpoints ++ [e] }

/-- The service with another poll period. -/
def polledEvery (s : ServiceConfig) (pollPeriodMs : UInt64) : ServiceConfig :=
  { s with pollPeriodMs }

/-- Whether a character is the separator of paths. -/
def isSlash (c : Char) : Bool :=
  c == '/'

/-- The topic of an endpoint: root and endpoint path with one separator between them. -/
def topicPath (s : ServiceConfig) (e : EndpointConfig) : String :=
  String.ofList
    (dropTail isSlash s.topicPathRoot.toList ++ '/' :: e.topicPath.toList.dropWhile isSlash)

/-- The absolute URL of an endpoint. -/
def urlOf (s : ServiceConfig) (e : EndpointConfig) : String :=
  let scheme := if s.secure then "https" else "http"
  let path := match e.url.toList with
    | '/' :: _ => e.url
    | _ => "/" ++ e.url
  scheme ++ "://" ++ s.host ++ ":" ++ toString s.port.toNat ++ path

/-- The name that log entries give to an endpoint. -/
def endpointLabel (s : ServiceConfig) (e : EndpointConfig) : String :=
  s.name ++ "/" ++ e.name

end ServiceConfig

/-- Whether and how often poll metrics are logged. -/
structure MetricsConfig where
  logging : Bool := false
  loggingIntervalMs : UInt64 := 60000
  deriving DecidableEq, Repr, Inhabited

/-- One snapshot of the configuration. -/
structure Model where
  active : Bool := false
  broker : BrokerConfig
  services : List ServiceConfig := []
  truststore : Option String := none
  metrics : MetricsConfig := {}
  deriving DecidableEq, Repr, Inhabited

namespace Model

/-- Whether no service has an endpoint. -/
def isIdle (m : Model) : Bool :=
  m.services.all fun s => s.endpoints.isEmpty

/-- The first service with the given name. -/
def service? (m : Model) (name : String) : Option ServiceConfig :=
  m.services.find? fun s => s.name == name

/-- The security settings in the order of the services, each with the name of its service. -/
def security (m : Model) : List (String × SecurityConfig) :=
  m.services.map fun s => (s.name, s.security)

end Model

/-- The address of a broker. -/
def BrokerConfig.address (b : BrokerConfig) : String :=
  (if b.secure then "wss" else "ws") ++ "://" ++ b.host ++ ":" ++ toString b.port.toNat

/-- The text of an optional setting in log entries. -/
def describeOptional : Option String → String
  | some s => s
  | none => "none"

end TopicRelay.Config
