/-
The records of a configuration as they are written: names and order of the fields, which of them
have to be given, and what the others default to.
-/
import TopicRelay.Config.Model
import TopicRelay.Config.Record

namespace TopicRelay.Config

namespace Format

variable {τ : Type} (f : Format τ)

/-- A field that has to be given. -/
def required {α : Type} (missing : String → Refusal) (name : String) (v : Option α) :
    Except Refusal α :=
  match v with
  | some a => .ok a
  | none => .error (missing name)

/-- An unsigned integer of 16 bits. -/
def unsigned16 (t : τ) : Except Refusal UInt16 :=
  (f.unsigned 16 t).map UInt16.ofNat

/-- An unsigned integer of 32 bits. -/
def unsigned32 (t : τ) : Except Refusal UInt32 :=
  (f.unsigned 32 t).map UInt32.ofNat

/-- An unsigned integer of 64 bits. -/
def unsigned64 (t : τ) : Except Refusal UInt64 :=
  (f.unsigned 64 t).map UInt64.ofNat

/-! ## Endpoints -/

/-- The fields of an endpoint given so far. -/
structure EndpointDraft where
  name : Option String := none
  url : Option String := none
  topicPath : Option String := none
  produces : Option String := none

/-- The fields of an endpoint. -/
def endpointSchema : Schema τ EndpointDraft EndpointConfig where
  name := "EndpointConfig"
  fields := ["name", "url", "topic_path", "produces"]
  empty := {}
  put field t d :=
    match field with
    | "name" => do return { d with name := some (← f.text t) }
    | "url" => do return { d with url := some (← f.text t) }
    | "topic_path" => do return { d with topicPath := some (← f.text t) }
    | _ => do return { d with produces := some (← f.text t) }
  complete missing d := do
    return {
      name := ← required missing "name" d.name
      url := ← required missing "url" d.url
      topicPath := ← required missing "topic_path" d.topicPath
      produces := d.produces.getD autoProduces }

/-- An endpoint. -/
def endpoint (t : τ) : Except Refusal EndpointConfig :=
  f.record f.endpointSchema t

/-! ## Security -/

/-- The fields of credentials given so far. -/
structure BasicDraft where
  userid : Option String := none
  password : Option String := none

/-- The fields of credentials. -/
def basicSchema : Schema τ BasicDraft BasicAuthentication where
  name := "BasicAuthenticationConfig"
  fields := ["userid", "password"]
  empty := {}
  put field t d :=
    match field with
    | "userid" => do return { d with userid := some (← f.text t) }
    | _ => do return { d with password := some (← f.text t) }
  complete missing d := do
    return {
      userid := ← required missing "userid" d.userid
      password := ← required missing "password" d.password }

/-- The credentials of a user. -/
def basic (t : τ) : Except Refusal BasicAuthentication :=
  f.record f.basicSchema t

/-- The fields of security settings given so far. -/
structure SecurityDraft where
  basic : Option (Option BasicAuthentication) := none

/-- The fields of security settings. -/
def securitySchema : Schema τ SecurityDraft SecurityConfig where
  name := "SecurityConfig"
  fields := ["basic"]
  empty := {}
  put _ t _ := do return { basic := some (← f.optional f.basic t) }
  complete _ d := .ok { basic := d.basic.getD none }

/-- Security settings. -/
def security (t : τ) : Except Refusal SecurityConfig :=
  f.record f.securitySchema t

/-! ## Services -/

/-- The fields of a service given so far. -/
structure ServiceDraft where
  name : Option String := none
  host : Option String := none
  port : Option UInt16 := none
  secure : Option Bool := none
  endpoints : Option (List EndpointConfig) := none
  pollPeriodMs : Option UInt64 := none
  topicPathRoot : Option String := none
  security : Option SecurityConfig := none

/-- The fields of a service. -/
def serviceSchema : Schema τ ServiceDraft ServiceConfig where
  name := "ServiceConfig"
  fields := ["name", "host", "port", "secure", "endpoints", "poll_period_ms", "topic_path_root",
    "security"]
  empty := {}
  put field t d :=
    match field with
    | "name" => do return { d with name := some (← f.text t) }
    | "host" => do return { d with host := some (← f.text t) }
    | "port" => do return { d with port := some (← f.unsigned16 t) }
    | "secure" => do return { d with secure := some (← f.bool t) }
    | "endpoints" => do return { d with endpoints := some (← f.list f.endpoint t) }
    | "poll_period_ms" => do return { d with pollPeriodMs := some (← f.unsigned64 t) }
    | "topic_path_root" => do return { d with topicPathRoot := some (← f.text t) }
    | _ => do return { d with security := some (← f.security t) }
  complete missing d := do
    return {
      name := ← required missing "name" d.name
      host := ← required missing "host" d.host
      port := d.port.getD 443
      secure := d.secure.getD true
      endpoints := d.endpoints.getD []
      pollPeriodMs := d.pollPeriodMs.getD 60000
      topicPathRoot := ← required missing "topic_path_root" d.topicPathRoot
      security := d.security.getD {} }

/-- A service. -/
def service (t : τ) : Except Refusal ServiceConfig :=
  f.record f.serviceSchema t

/-! ## Broker -/

/-- The fields of a broker given so far. -/
structure BrokerDraft where
  host : Option String := none
  port : Option UInt16 := none
  secure : Option Bool := none
  principal : Option (Option String) := none
  password : Option (Option String) := none
  connectionTimeoutMs : Option UInt64 := none
  reconnectionTimeoutMs : Option UInt64 := none
  maximumMessageSize : Option UInt32 := none
  inputBufferSize : Option UInt32 := none
  outputBufferSize : Option UInt32 := none
  recoveryBufferSize : Option UInt32 := none

/-- The fields of a broker. -/
def brokerSchema : Schema τ BrokerDraft BrokerConfig where
  name := "BrokerConfig"
  fields := ["host", "port", "secure", "principal", "password", "connection_timeout_ms",
    "reconnection_timeout_ms", "maximum_message_size", "input_buffer_size", "output_buffer_size",
    "recovery_buffer_size"]
  empty := {}
  put field t d :=
    match field with
    | "host" => do return { d with host := some (← f.text t) }
    | "port" => do return { d with port := some (← f.unsigned16 t) }
    | "secure" => do return { d with secure := some (← f.bool t) }
    | "principal" => do return { d with principal := some (← f.optional f.text t) }
    | "password" => do return { d with password := some (← f.optional f.text t) }
    | "connection_timeout_ms" => do return { d with connectionTimeoutMs := some (← f.unsigned64 t) }
    | "reconnection_timeout_ms" => do
      return { d with reconnectionTimeoutMs := some (← f.unsigned64 t) }
    | "maximum_message_size" => do return { d with maximumMessageSize := some (← f.unsigned32 t) }
    | "input_buffer_size" => do return { d with inputBufferSize := some (← f.unsigned32 t) }
    | "output_buffer_size" => do return { d with outputBufferSize := some (← f.unsigned32 t) }
    | _ => do return { d with recoveryBufferSize := some (← f.unsigned32 t) }
  complete missing d := do
    return {
      host := ← required missing "host" d.host
      port := d.port.getD 8080
      secure := d.secure.getD false
      principal := d.principal.getD none
      password := d.password.getD none
      connectionTimeoutMs := d.connectionTimeoutMs.getD 10000
      reconnectionTimeoutMs := d.reconnectionTimeoutMs.getD 60000
      maximumMessageSize := d.maximumMessageSize.getD 33554432
      inputBufferSize := d.inputBufferSize.getD 1048576
      outputBufferSize := d.outputBufferSize.getD 1048576
      recoveryBufferSize := d.recoveryBufferSize.getD 256 }

/-- A broker. -/
def broker (t : τ) : Except Refusal BrokerConfig :=
  f.record f.brokerSchema t

/-! ## Metrics and model -/

/-- The fields of metrics settings given so far. -/
structure MetricsDraft where
  logging : Option Bool := none
  loggingIntervalMs : Option UInt64 := none

/-- The fields of metrics settings. -/
def metricsSchema : Schema τ MetricsDraft MetricsConfig where
  name := "MetricsConfig"
  fields := ["logging", "logging_interval_ms"]
  empty := {}
  put field t d :=
    match field with
    | "logging" => do return { d with logging := some (← f.bool t) }
    | _ => do return { d with loggingIntervalMs := some (← f.unsigned64 t) }
  complete _ d :=
    .ok { logging := d.logging.getD false, loggingIntervalMs := d.loggingIntervalMs.getD 60000 }

/-- Metrics settings. -/
def metrics (t : τ) : Except Refusal MetricsConfig :=
  f.record f.metricsSchema t

/-- The fields of a model given so far. -/
structure ModelDraft where
  active : Option Bool := none
  broker : Option BrokerConfig := none
  services : Option (List ServiceConfig) := none
  truststore : Option (Option String) := none
  metrics : Option MetricsConfig := none

/-- The fields of a model. -/
def modelSchema : Schema τ ModelDraft Model where
  name := "Model"
  fields := ["active", "broker", "services", "truststore", "metrics"]
  empty := {}
  put field t d :=
    match field with
    | "active" => do return { d with active := some (← f.bool t) }
    | "broker" => do return { d with broker := some (← f.broker t) }
    | "services" => do return { d with services := some (← f.list f.service t) }
    | "truststore" => do return { d with truststore := some (← f.optional f.text t) }
    | _ => do return { d with metrics := some (← f.metrics t) }
  complete missing d := do
    return {
      active := d.active.getD false
      broker := ← required missing "broker" d.broker
      services := d.services.getD []
      truststore := d.truststore.getD none
      metrics := d.metrics.getD {} }

/-- A model. -/
def model (t : τ) : Except Refusal Model :=
  f.record f.modelSchema t

end Format

end TopicRelay.Config
