/-
The written forms of a model. A record may be written as any object that gives its fields, in any order
and without some of those that hold their default; the records within it may be written in the same way.
The form with every field in its order is one of them. Also said here is what it means that an object,
somewhere within a written model, has one field more whose name is unknown.
-/
import TopicRelay.Config.Written
import TopicRelay.Proofs.Json.Values
import Mathlib.Data.List.Forall2

namespace TopicRelay.Config

open TopicRelay.Json

/-! ## Fields -/

/-- A field of a record: its name, the values that stand for what it holds, and whether it may be left
out since it holds its default. -/
structure RecordField where
  name : String
  holds : Value → Prop
  spare : Prop := False

/-- An object that gives fields: each of them once, in any order, and all but some that may be left
out. -/
inductive Gives (fields : List RecordField) : Value → Prop
  | object {members : List (String × Value)} (once : (members.map Prod.fst).Nodup)
      (known : ∀ m ∈ members, ∃ f ∈ fields, f.name = m.1 ∧ f.holds m.2)
      (complete : ∀ f ∈ fields, f.spare ∨ ∃ m ∈ members, m.1 = f.name ∧ f.holds m.2) :
      Gives fields (.object members)

/-- A value for something that may be absent. -/
def orNull {α : Type} (value : α → Value) : Option α → Value
  | some a => value a
  | none => .null

/-- A value for a natural number. -/
def natural (n : Nat) : Value :=
  .number (.integer n)

/-- A written record that may be absent. -/
def MayGive {α : Type} (fields : α → List RecordField) : Option α → Value → Prop
  | some a, v => Gives (fields a) v
  | none, v => v = .null

/-- A written list of records. -/
def Lists {α : Type} (fields : α → List RecordField) (as : List α) (v : Value) : Prop :=
  ∃ vs, v = .array vs ∧ List.Forall₂ (fun a w => Gives (fields a) w) as vs

/-- Written credentials. -/
def BasicAuthentication.fields (b : BasicAuthentication) : List RecordField := [
  { name := "userid", holds := (· = .text b.userid) },
  { name := "password", holds := (· = .text b.password) }]

/-- Written security settings. -/
def SecurityConfig.fields (s : SecurityConfig) : List RecordField := [
  { name := "basic", holds := MayGive BasicAuthentication.fields s.basic, spare := s.basic = none }]

/-- A written endpoint. -/
def EndpointConfig.fields (e : EndpointConfig) : List RecordField := [
  { name := "name", holds := (· = .text e.name) },
  { name := "url", holds := (· = .text e.url) },
  { name := "topic_path", holds := (· = .text e.topicPath) },
  { name := "produces", holds := (· = .text e.produces), spare := e.produces = "auto" }]

/-- A written service. -/
def ServiceConfig.fields (s : ServiceConfig) : List RecordField := [
  { name := "name", holds := (· = .text s.name) },
  { name := "host", holds := (· = .text s.host) },
  { name := "port", holds := (· = natural s.port.toNat), spare := s.port = 443 },
  { name := "secure", holds := (· = .bool s.secure), spare := s.secure = true },
  { name := "endpoints", holds := Lists EndpointConfig.fields s.endpoints, spare := s.endpoints = [] },
  { name := "poll_period_ms", holds := (· = natural s.pollPeriodMs.toNat),
    spare := s.pollPeriodMs = 60000 },
  { name := "topic_path_root", holds := (· = .text s.topicPathRoot) },
  { name := "security", holds := Gives s.security.fields, spare := s.security = { basic := none } }]

/-- A written broker. -/
def BrokerConfig.fields (b : BrokerConfig) : List RecordField := [
  { name := "host", holds := (· = .text b.host) },
  { name := "port", holds := (· = natural b.port.toNat), spare := b.port = 8080 },
  { name := "secure", holds := (· = .bool b.secure), spare := b.secure = false },
  { name := "principal", holds := (· = orNull .text b.principal), spare := b.principal = none },
  { name := "password", holds := (· = orNull .text b.password), spare := b.password = none },
  { name := "connection_timeout_ms", holds := (· = natural b.connectionTimeoutMs.toNat),
    spare := b.connectionTimeoutMs = 10000 },
  { name := "reconnection_timeout_ms", holds := (· = natural b.reconnectionTimeoutMs.toNat),
    spare := b.reconnectionTimeoutMs = 60000 },
  { name := "maximum_message_size", holds := (· = natural b.maximumMessageSize.toNat),
    spare := b.maximumMessageSize = 33554432 },
  { name := "input_buffer_size", holds := (· = natural b.inputBufferSize.toNat),
    spare := b.inputBufferSize = 1048576 },
  { name := "output_buffer_size", holds := (· = natural b.outputBufferSize.toNat),
    spare := b.outputBufferSize = 1048576 },
  { name := "recovery_buffer_size", holds := (· = natural b.recoveryBufferSize.toNat),
    spare := b.recoveryBufferSize = 256 }]

/-- Written metrics settings. -/
def MetricsConfig.fields (m : MetricsConfig) : List RecordField := [
  { name := "logging", holds := (· = .bool m.logging), spare := m.logging = false },
  { name := "logging_interval_ms", holds := (· = natural m.loggingIntervalMs.toNat),
    spare := m.loggingIntervalMs = 60000 }]

/-- A written model. -/
def Model.fields (m : Model) : List RecordField := [
  { name := "active", holds := (· = .bool m.active), spare := m.active = false },
  { name := "broker", holds := Gives m.broker.fields },
  { name := "services", holds := Lists ServiceConfig.fields m.services, spare := m.services = [] },
  { name := "truststore", holds := (· = orNull .text m.truststore), spare := m.truststore = none },
  { name := "metrics", holds := Gives m.metrics.fields,
    spare := m.metrics = { logging := false, loggingIntervalMs := 60000 } }]

/-! ## Integers and texts -/

/-- The integers of a broker. -/
def BrokerConfig.integers (b : BrokerConfig) : List Nat := [
  b.port.toNat, b.connectionTimeoutMs.toNat, b.reconnectionTimeoutMs.toNat,
  b.maximumMessageSize.toNat, b.inputBufferSize.toNat, b.outputBufferSize.toNat,
  b.recoveryBufferSize.toNat]

/-- The integers of a service. -/
def ServiceConfig.integers (s : ServiceConfig) : List Nat :=
  [s.port.toNat, s.pollPeriodMs.toNat]

/-- The integers of a model. -/
def Model.integers (m : Model) : List Nat :=
  m.broker.integers ++ m.services.flatMap ServiceConfig.integers ++ [m.metrics.loggingIntervalMs.toNat]

/-- The texts of an endpoint. -/
def EndpointConfig.texts (e : EndpointConfig) : List String :=
  [e.name, e.url, e.topicPath, e.produces]

/-- The texts of credentials. -/
def BasicAuthentication.texts (b : BasicAuthentication) : List String :=
  [b.userid, b.password]

/-- The texts of security settings. -/
def SecurityConfig.texts (s : SecurityConfig) : List String :=
  s.basic.toList.flatMap BasicAuthentication.texts

/-- The texts of a service. -/
def ServiceConfig.texts (s : ServiceConfig) : List String :=
  [s.name, s.host, s.topicPathRoot] ++ s.endpoints.flatMap EndpointConfig.texts ++ s.security.texts

/-- The texts of a broker. -/
def BrokerConfig.texts (b : BrokerConfig) : List String :=
  [b.host] ++ b.principal.toList ++ b.password.toList

/-- The texts of a model. -/
def Model.texts (m : Model) : List String :=
  m.broker.texts ++ m.services.flatMap ServiceConfig.texts ++ m.truststore.toList

/-! ## Unknown fields -/

/-- The records that a model is made of. -/
inductive RecordKind where
  | model
  | broker
  | service
  | endpoint
  | security
  | basic
  | metrics
  deriving Repr, DecidableEq

namespace RecordKind

/-- The names of the fields of a record. -/
def names : RecordKind → List String
  | .model => ["active", "broker", "services", "truststore", "metrics"]
  | .broker => ["host", "port", "secure", "principal", "password", "connection_timeout_ms",
      "reconnection_timeout_ms", "maximum_message_size", "input_buffer_size", "output_buffer_size",
      "recovery_buffer_size"]
  | .service => ["name", "host", "port", "secure", "endpoints", "poll_period_ms", "topic_path_root",
      "security"]
  | .endpoint => ["name", "url", "topic_path", "produces"]
  | .security => ["basic"]
  | .basic => ["userid", "password"]
  | .metrics => ["logging", "logging_interval_ms"]

/-- A field of one record that holds another record. -/
inductive Part : RecordKind → String → RecordKind → Prop
  | broker : Part .model "broker" .broker
  | metrics : Part .model "metrics" .metrics
  | security : Part .service "security" .security
  | basic : Part .security "basic" .basic

/-- A field of one record that holds a list of others. -/
inductive Parts : RecordKind → String → RecordKind → Prop
  | services : Parts .model "services" .service
  | endpoints : Parts .service "endpoints" .endpoint

end RecordKind

/-- The second value is the first with one field more, of an unknown name and with any value, in the
record itself or in a record within it. -/
inductive Extends : RecordKind → Value → Value → Prop
  | here {k : RecordKind} {before after : List (String × Value)} {name : String} (extra : Value)
      (unknown : name ∉ k.names) :
      Extends k (.object (before ++ after)) (.object (before ++ (name, extra) :: after))
  | part {k k' : RecordKind} {before after : List (String × Value)} {name : String} {v v' : Value}
      (field : k.Part name k') (h : Extends k' v v') :
      Extends k (.object (before ++ (name, v) :: after)) (.object (before ++ (name, v') :: after))
  | item {k k' : RecordKind} {before after : List (String × Value)} {name : String}
      {previous next : List Value} {v v' : Value} (field : k.Parts name k') (h : Extends k' v v') :
      Extends k (.object (before ++ (name, .array (previous ++ v :: next)) :: after))
        (.object (before ++ (name, .array (previous ++ v' :: next)) :: after))

/-! ## The form with every field -/

/-- An object with all fields, in their order. -/
def full (fields : List RecordField) (values : List Value) : Value :=
  .object ((fields.map RecordField.name).zip values)

/-- Credentials with every field. -/
def BasicAuthentication.value (b : BasicAuthentication) : Value :=
  full b.fields [.text b.userid, .text b.password]

/-- Security settings with every field. -/
def SecurityConfig.value (s : SecurityConfig) : Value :=
  full s.fields [orNull BasicAuthentication.value s.basic]

/-- An endpoint with every field. -/
def EndpointConfig.value (e : EndpointConfig) : Value :=
  full e.fields [.text e.name, .text e.url, .text e.topicPath, .text e.produces]

/-- A service with every field. -/
def ServiceConfig.value (s : ServiceConfig) : Value :=
  full s.fields [.text s.name, .text s.host, natural s.port.toNat, .bool s.secure,
    .array (s.endpoints.map EndpointConfig.value), natural s.pollPeriodMs.toNat,
    .text s.topicPathRoot, s.security.value]

/-- A broker with every field. -/
def BrokerConfig.value (b : BrokerConfig) : Value :=
  full b.fields [.text b.host, natural b.port.toNat, .bool b.secure, orNull .text b.principal,
    orNull .text b.password, natural b.connectionTimeoutMs.toNat,
    natural b.reconnectionTimeoutMs.toNat, natural b.maximumMessageSize.toNat,
    natural b.inputBufferSize.toNat, natural b.outputBufferSize.toNat,
    natural b.recoveryBufferSize.toNat]

/-- Metrics settings with every field. -/
def MetricsConfig.value (m : MetricsConfig) : Value :=
  full m.fields [.bool m.logging, natural m.loggingIntervalMs.toNat]

/-- A model with every field. -/
def Model.value (m : Model) : Value :=
  full m.fields [.bool m.active, m.broker.value, .array (m.services.map ServiceConfig.value),
    orNull .text m.truststore, m.metrics.value]

/-! ### It is what is written -/

theorem write_object (members : List (String × Value)) :
    (Value.object members).write = writeFields (members.map fun m => (m.1, m.2.write)) := by
  have rest (ms : List (String × Value)) : writeMembers ms =
      (ms.map fun m => (m.1, m.2.write)).flatMap
        (fun m => ',' :: writeText m.1 ++ ':' :: m.2) ++ ['\x7d'] := by
    induction ms with
    | nil => rfl
    | cons m ms ih => simp [writeMembers, ih]
  cases members with
  | nil => rfl
  | cons m ms => simp [Value.write, writeFields, rest]

theorem write_array {α : Type} {value : α → Value} {write : α → List Char}
    (h : ∀ a, (value a).write = write a) (as : List α) :
    (Value.array (as.map value)).write = writeList write as := by
  have rest (as : List α) : writeItems (as.map value) =
      as.flatMap (fun a => ',' :: write a) ++ [']'] := by
    induction as with
    | nil => rfl
    | cons a as ih => simp [writeItems, h, ih]
  cases as with
  | nil => rfl
  | cons a as => simp [Value.write, writeList, h, rest]

theorem write_orNull {α : Type} {value : α → Value} {write : α → List Char}
    (h : ∀ a, (value a).write = write a) (o : Option α) :
    (orNull value o).write = writeOptional write o := by
  cases o with
  | none => rfl
  | some a => exact h a

theorem write_text (s : String) : (Value.text s).write = writeText s :=
  rfl

theorem write_bool (b : Bool) : (Value.bool b).write = writeBool b := by
  cases b <;> rfl

theorem write_natural (n : Nat) : (natural n).write = Text.decimal n :=
  rfl

theorem BasicAuthentication.write_value (b : BasicAuthentication) : b.value.write = b.write := by
  rw [value, full, write_object]
  rfl

theorem SecurityConfig.write_value (s : SecurityConfig) : s.value.write = s.write := by
  rw [value, full, write_object]
  simp [fields, SecurityConfig.write, write_orNull BasicAuthentication.write_value]

theorem EndpointConfig.write_value (e : EndpointConfig) : e.value.write = e.write := by
  rw [value, full, write_object]
  rfl

theorem ServiceConfig.write_value (s : ServiceConfig) : s.value.write = s.write := by
  rw [value, full, write_object]
  simp [fields, ServiceConfig.write, write_text, write_bool, write_natural,
    write_array EndpointConfig.write_value, SecurityConfig.write_value]

theorem BrokerConfig.write_value (b : BrokerConfig) : b.value.write = b.write := by
  rw [value, full, write_object]
  simp [fields, BrokerConfig.write, write_text, write_bool, write_natural, write_orNull write_text]

theorem MetricsConfig.write_value (m : MetricsConfig) : m.value.write = m.write := by
  rw [value, full, write_object]
  simp [fields, MetricsConfig.write, write_bool, write_natural]

theorem Model.write_value (m : Model) : m.value.write = m.write := by
  rw [value, full, write_object]
  simp [fields, Model.write, write_bool, write_orNull write_text, BrokerConfig.write_value,
    write_array ServiceConfig.write_value, MetricsConfig.write_value]

/-! ### It gives every field -/

theorem zip_of_forall₂ {fields : List RecordField} {values : List Value}
    (h : List.Forall₂ (fun f v => f.holds v) fields values) :
    (∀ m ∈ (fields.map RecordField.name).zip values, ∃ f ∈ fields, f.name = m.1 ∧ f.holds m.2) ∧
      ∀ f ∈ fields, ∃ m ∈ (fields.map RecordField.name).zip values, m.1 = f.name ∧ f.holds m.2 := by
  induction h with
  | nil => exact ⟨nofun, nofun⟩
  | @cons f v fields values held _ ih =>
    rw [List.map_cons, List.zip_cons_cons]
    constructor
    · intro m hm
      rcases List.mem_cons.1 hm with rfl | hm
      · exact ⟨f, List.mem_cons_self, rfl, held⟩
      · obtain ⟨g, hg, named, held⟩ := ih.1 m hm
        exact ⟨g, List.mem_cons_of_mem _ hg, named, held⟩
    · intro g hg
      rcases List.mem_cons.1 hg with rfl | hg
      · exact ⟨_, List.mem_cons_self, rfl, held⟩
      · obtain ⟨m, hm, named, held⟩ := ih.2 g hg
        exact ⟨m, List.mem_cons_of_mem _ hm, named, held⟩

theorem gives_full {fields : List RecordField} {values : List Value}
    (h : List.Forall₂ (fun f v => f.holds v) fields values)
    (distinct : (fields.map RecordField.name).Nodup) : Gives fields (full fields values) := by
  obtain ⟨known, complete⟩ := zip_of_forall₂ h
  refine .object ?_ known fun f hf => .inr (complete f hf)
  rw [List.map_fst_zip (by simp [h.length_eq])]
  exact distinct

theorem mayGive_orNull {α : Type} {fields : α → List RecordField} {value : α → Value}
    (h : ∀ a, Gives (fields a) (value a)) (o : Option α) : MayGive fields o (orNull value o) := by
  cases o with
  | none => rfl
  | some a => exact h a

theorem lists_map {α : Type} {fields : α → List RecordField} {value : α → Value}
    (h : ∀ a, Gives (fields a) (value a)) (as : List α) : Lists fields as (.array (as.map value)) := by
  refine ⟨_, rfl, ?_⟩
  induction as with
  | nil => exact .nil
  | cons a as ih => exact .cons (h a) ih

theorem BasicAuthentication.gives_value (b : BasicAuthentication) : Gives b.fields b.value :=
  gives_full (by simp [fields]) (by simp [fields])

theorem SecurityConfig.gives_value (s : SecurityConfig) : Gives s.fields s.value :=
  gives_full (by simp [fields, mayGive_orNull BasicAuthentication.gives_value]) (by simp [fields])

theorem EndpointConfig.gives_value (e : EndpointConfig) : Gives e.fields e.value :=
  gives_full (by simp [fields]) (by simp [fields])

theorem ServiceConfig.gives_value (s : ServiceConfig) : Gives s.fields s.value :=
  gives_full (by simp [fields, lists_map EndpointConfig.gives_value, SecurityConfig.gives_value])
    (by simp [fields])

theorem BrokerConfig.gives_value (b : BrokerConfig) : Gives b.fields b.value :=
  gives_full (by simp [fields]) (by simp [fields])

theorem MetricsConfig.gives_value (m : MetricsConfig) : Gives m.fields m.value :=
  gives_full (by simp [fields]) (by simp [fields])

/-- A model with every field is one of its written forms. -/
theorem Model.gives_value (m : Model) : Gives m.fields m.value :=
  gives_full (by simp [fields, BrokerConfig.gives_value, lists_map ServiceConfig.gives_value,
    MetricsConfig.gives_value]) (by simp [fields])

end TopicRelay.Config
