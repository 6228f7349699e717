/-
Reading records from values. A format is faithful if its trees show every part of a value as it is and
every exact integer with its value; then a record is read from any of its written forms, since members
are put into a draft one by one and a draft that lacks only defaults is completed to the record. In any
format a record with an unknown field in it, or in a record within it, is refused.
-/
import TopicRelay.Config.Schema
import TopicRelay.Proofs.Config.Renditions
import Mathlib.Data.List.Nodup

namespace TopicRelay.Config

open TopicRelay.Json TopicRelay.Decimal

variable {τ δ α : Type}

theorem ok_bind {β : Type} (a : α) (g : α → Except Refusal β) : (Except.ok a >>= g) = g a :=
  rfl

theorem error_bind {β : Type} (r : Refusal) (g : α → Except Refusal β) :
    (Except.error r >>= g) = Except.error r :=
  rfl

theorem pure_eq_ok (a : α) : (pure a : Except Refusal α) = .ok a :=
  rfl

/-! ## Drafts -/

/-- What a draft holds for a field when the fields with the names `given` have been put. -/
def drafted (given : List String) (name : String) (a : α) : Option α :=
  if name ∈ given then some a else none

@[simp]
theorem drafted_nil (name : String) (a : α) : drafted [] name a = none :=
  if_neg List.not_mem_nil

@[simp]
theorem drafted_cons (n : String) (given : List String) (name : String) (a : α) :
    drafted (n :: given) name a = if name = n then some a else drafted given name a := by
  unfold drafted
  by_cases same : name = n <;> simp [same]

theorem required_drafted {given : List String} {name : String} (h : name ∈ given)
    (missing : String → Refusal) (a : α) :
    Format.required missing name (drafted given name a) = .ok a := by
  rw [drafted, if_pos h, Format.required]

theorem getD_drafted {given : List String} {name : String} {a default : α}
    (h : a = default ∨ name ∈ given) : (drafted given name a).getD default = a := by
  unfold drafted
  rcases h with rfl | h
  · split <;> rfl
  · rw [if_pos h, Option.getD_some]

/-- Members that give fields of a record are all put into the draft. -/
theorem putMembers_eq {s : Format.Schema τ δ α} {tree : Value → τ} {fields : List RecordField}
    {draft : List String → δ} (named : ∀ d ∈ fields, d.name ∈ s.fields)
    (put : ∀ d ∈ fields, ∀ w, d.holds w → ∀ given,
      s.put d.name (tree w) (draft given) = .ok (draft (d.name :: given)))
    {members : List (String × Value)} (known : ∀ m ∈ members, ∃ d ∈ fields, d.name = m.1 ∧ d.holds m.2)
    {given : List String} (once : (given ++ members.map Prod.fst).Nodup) :
    Format.putMembers s given (members.map fun m => (.ok m.1, tree m.2)) (draft given) =
      .ok (draft ((members.map Prod.fst).reverse ++ given)) := by
  induction members generalizing given with
  | nil => rfl
  | cons m ms ih =>
    obtain ⟨d, hd, name, held⟩ := known m List.mem_cons_self
    have field : s.fields.contains m.1 = true := List.contains_iff_mem.2 (name ▸ named d hd)
    have new : given.contains m.1 = false := by
      rw [Bool.eq_false_iff, Ne, List.contains_iff_mem]
      exact fun h => (List.nodup_append.1 once).2.2 _ h _ List.mem_cons_self rfl
    have once' : (m.1 :: given ++ ms.map Prod.fst).Nodup := by
      rw [List.map_cons] at once
      exact List.nodup_middle.1 once
    rw [List.map_cons, Format.putMembers, field, new, ← name, put d hd _ held, name]
    simp only [Bool.not_true, Bool.false_eq_true, if_false]
    rw [ih (fun m hm => known m (List.mem_cons_of_mem _ hm)) once']
    simp

/-- A format whose trees show values as they are. -/
structure Faithful (f : Format τ) (tree : Value → τ) (exact : Nat → Prop) : Prop where
  null : f.shape (tree .null) = .null
  bool : ∀ b, f.shape (tree (.bool b)) = .bool b
  text : ∀ s, f.shape (tree (.text s)) = .text s
  array : ∀ vs, f.shape (tree (.array vs)) = .array (vs.map tree) true
  object : ∀ ms, f.shape (tree (.object ms)) = .object (ms.map fun m => (.ok m.1, tree m.2)) true
  unsigned : ∀ bits n, exact n → n < twoTo bits → f.unsigned bits (tree (natural n)) = .ok n

namespace Faithful

variable {f : Format τ} {tree : Value → τ} {exact : Nat → Prop} (F : Faithful f tree exact)

include F

/-! ## Scalars and lists -/

theorem read_bool (b : Bool) : f.bool (tree (.bool b)) = .ok b := by
  rw [Format.bool, F.bool]

theorem read_text (s : String) : f.text (tree (.text s)) = .ok s := by
  rw [Format.text, F.text]

theorem read_unsigned16 {n : UInt16} (h : exact n.toNat) :
    f.unsigned16 (tree (natural n.toNat)) = .ok n := by
  rw [Format.unsigned16, F.unsigned 16 _ h n.toNat_lt]
  exact congrArg _ (UInt16.ofNat_toNat)

theorem read_unsigned32 {n : UInt32} (h : exact n.toNat) :
    f.unsigned32 (tree (natural n.toNat)) = .ok n := by
  rw [Format.unsigned32, F.unsigned 32 _ h n.toNat_lt]
  exact congrArg _ (UInt32.ofNat_toNat)

theorem read_unsigned64 {n : UInt64} (h : exact n.toNat) :
    f.unsigned64 (tree (natural n.toNat)) = .ok n := by
  rw [Format.unsigned64, F.unsigned 64 _ h n.toNat_lt]
  exact congrArg _ (UInt64.ofNat_toNat)

theorem read_orNull (o : Option String) : f.optional f.text (tree (orNull .text o)) = .ok o := by
  unfold Format.optional
  cases o with
  | none =>
    have shape := F.null
    rw [orNull, shape]
  | some s =>
    rw [orNull, F.text, F.read_text]
    rfl

theorem read_mayGive {fields : α → List RecordField} {read : τ → Except Refusal α} {o : Option α}
    {v : Value} (h : MayGive fields o v)
    (each : ∀ a ∈ o, ∀ w, Gives (fields a) w → read (tree w) = .ok a) :
    f.optional read (tree v) = .ok o := by
  unfold Format.optional
  cases o with
  | none =>
    obtain rfl := h
    rw [F.null]
  | some a =>
    have given : Gives (fields a) v := h
    obtain ⟨-, -, -⟩ := h
    rw [F.object, each a rfl _ given]
    rfl

theorem read_lists {fields : α → List RecordField} {read : τ → Except Refusal α} {as : List α}
    {v : Value} (h : Lists fields as v)
    (each : ∀ a ∈ as, ∀ w, Gives (fields a) w → read (tree w) = .ok a) :
    f.list read (tree v) = .ok as := by
  obtain ⟨vs, rfl, paired⟩ := h
  have values : (vs.map tree).mapM read = .ok as := by
    induction paired with
    | nil => rfl
    | cons given _ ih =>
      rw [List.map_cons, List.mapM_cons, each _ List.mem_cons_self _ given,
        ih fun a ha => each a (List.mem_cons_of_mem _ ha)]
      rfl
  rw [Format.list, F.array]
  simp [values, ok_bind]

/-! ## Records -/

/-- A record is read from any of its written forms, if a draft without some of the fields that may be
left out is completed to it. -/
theorem record_of_gives {s : Format.Schema τ δ α} {fields : List RecordField} {a : α} {v : Value}
    (h : Gives fields v) (draft : List String → δ) (empty : draft [] = s.empty)
    (named : ∀ d ∈ fields, d.name ∈ s.fields)
    (put : ∀ d ∈ fields, ∀ w, d.holds w → ∀ given,
      s.put d.name (tree w) (draft given) = .ok (draft (d.name :: given)))
    (complete : ∀ given, (∀ d ∈ fields, d.spare ∨ d.name ∈ given) →
      s.complete .missingField (draft given) = .ok a) : f.record s (tree v) = .ok a := by
  obtain @⟨members, once, known, each⟩ := h
  have once' : ([] ++ members.map Prod.fst).Nodup := once
  have filled := putMembers_eq named put known once'
  rw [empty] at filled
  have completed := complete ((members.map Prod.fst).reverse ++ []) fun d hd =>
    (each d hd).imp_right fun ⟨m, hm, name, _⟩ => by
      rw [List.append_nil, List.mem_reverse]
      exact List.mem_map.2 ⟨m, hm, name⟩
  rw [Format.record, F.object]
  simpa [filled, ok_bind] using completed

theorem read_basic {b : BasicAuthentication} {v : Value} (h : Gives b.fields v) :
    f.basic (tree v) = .ok b := by
  let draft (given : List String) : Format.BasicDraft :=
    { userid := drafted given "userid" b.userid, password := drafted given "password" b.password }
  refine F.record_of_gives h draft (by simp [draft, Format.basicSchema]) ?_ ?_ ?_
  · simp [BasicAuthentication.fields, Format.basicSchema]
  · simp [BasicAuthentication.fields, Format.basicSchema, F.read_text, draft]
  · intro given all
    simp only [BasicAuthentication.fields, List.forall_mem_cons, false_or] at all
    simp [Format.basicSchema, draft, required_drafted, all, ok_bind, pure_eq_ok]

theorem read_endpoint {e : EndpointConfig} {v : Value} (h : Gives e.fields v) :
    f.endpoint (tree v) = .ok e := by
  let draft (given : List String) : Format.EndpointDraft :=
    { name := drafted given "name" e.name, url := drafted given "url" e.url
      topicPath := drafted given "topic_path" e.topicPath
      produces := drafted given "produces" e.produces }
  refine F.record_of_gives h draft (by simp [draft, Format.endpointSchema]) ?_ ?_ ?_
  · simp [EndpointConfig.fields, Format.endpointSchema]
  · simp [EndpointConfig.fields, Format.endpointSchema, F.read_text, draft]
  · intro given all
    simp only [EndpointConfig.fields, List.forall_mem_cons, false_or] at all
    simp [Format.endpointSchema, draft, required_drafted, getD_drafted, autoProduces, all, ok_bind,
      pure_eq_ok]

theorem read_security {c : SecurityConfig} {v : Value} (h : Gives c.fields v) :
    f.security (tree v) = .ok c := by
  let draft (given : List String) : Format.SecurityDraft := { basic := drafted given "basic" c.basic }
  have basic (w : Value) (given : MayGive BasicAuthentication.fields c.basic w) :
      f.optional f.basic (tree w) = .ok c.basic := F.read_mayGive given fun _ _ _ => F.read_basic
  refine F.record_of_gives h draft (by simp [draft, Format.securitySchema]) ?_ ?_ ?_
  · simp [SecurityConfig.fields, Format.securitySchema]
  · simp +contextual [SecurityConfig.fields, Format.securitySchema, basic, draft, ok_bind, pure_eq_ok]
  · intro given all
    simp only [SecurityConfig.fields, List.forall_mem_cons] at all
    simp [Format.securitySchema, draft, getD_drafted, all]

theorem read_service {c : ServiceConfig} {v : Value} (exacts : ∀ n ∈ c.integers, exact n)
    (h : Gives c.fields v) : f.service (tree v) = .ok c := by
  let draft (given : List String) : Format.ServiceDraft :=
    { name := drafted given "name" c.name, host := drafted given "host" c.host
      port := drafted given "port" c.port, secure := drafted given "secure" c.secure
      endpoints := drafted given "endpoints" c.endpoints
      pollPeriodMs := drafted given "poll_period_ms" c.pollPeriodMs
      topicPathRoot := drafted given "topic_path_root" c.topicPathRoot
      security := drafted given "security" c.security }
  simp only [ServiceConfig.integers, List.forall_mem_cons] at exacts
  have port := F.read_unsigned16 exacts.1
  have period := F.read_unsigned64 exacts.2.1
  have endpoints (w : Value) (given : Lists EndpointConfig.fields c.endpoints w) :
      f.list f.endpoint (tree w) = .ok c.endpoints := F.read_lists given fun _ _ _ => F.read_endpoint
  have security (w : Value) (given : Gives c.security.fields w) :
      f.security (tree w) = .ok c.security := F.read_security given
  refine F.record_of_gives h draft (by simp [draft, Format.serviceSchema]) ?_ ?_ ?_
  · simp [ServiceConfig.fields, Format.serviceSchema]
  · simp +contextual [ServiceConfig.fields, Format.serviceSchema, F.read_text, F.read_bool, port, period,
      endpoints, security, draft, ok_bind, pure_eq_ok]
  · intro given all
    simp only [ServiceConfig.fields, List.forall_mem_cons, false_or] at all
    simp [Format.serviceSchema, draft, required_drafted, getD_drafted, all, ok_bind, pure_eq_ok]

theorem read_broker {b : BrokerConfig} {v : Value} (exacts : ∀ n ∈ b.integers, exact n)
    (h : Gives b.fields v) : f.broker (tree v) = .ok b := by
  let draft (given : List String) : Format.BrokerDraft :=
    { host := drafted given "host" b.host, port := drafted given "port" b.port
      secure := drafted given "secure" b.secure
      principal := drafted given "principal" b.principal
      password := drafted given "password" b.password
      connectionTimeoutMs := drafted given "connection_timeout_ms" b.connectionTimeoutMs
      reconnectionTimeoutMs := drafted given "reconnection_timeout_ms" b.reconnectionTimeoutMs
      maximumMessageSize := drafted given "maximum_message_size" b.maximumMessageSize
      inputBufferSize := drafted given "input_buffer_size" b.inputBufferSize
      outputBufferSize := drafted given "output_buffer_size" b.outputBufferSize
      recoveryBufferSize := drafted given "recovery_buffer_size" b.recoveryBufferSize }
  simp only [BrokerConfig.integers, List.forall_mem_cons] at exacts
  obtain ⟨port, connection, reconnection, message, input, output, recovery, -⟩ := exacts
  refine F.record_of_gives h draft (by simp [draft, Format.brokerSchema]) ?_ ?_ ?_
  · simp [BrokerConfig.fields, Format.brokerSchema]
  · simp [BrokerConfig.fields, Format.brokerSchema, F.read_text, F.read_bool, F.read_orNull,
      F.read_unsigned16 port, F.read_unsigned64 connection, F.read_unsigned64 reconnection,
      F.read_unsigned32 message, F.read_unsigned32 input, F.read_unsigned32 output,
      F.read_unsigned32 recovery, draft, ok_bind, pure_eq_ok]
  · intro given all
    simp only [BrokerConfig.fields, List.forall_mem_cons, false_or] at all
    simp [Format.brokerSchema, draft, required_drafted, getD_drafted, all, ok_bind, pure_eq_ok]

theorem read_metrics {m : MetricsConfig} {v : Value} (exacts : exact m.loggingIntervalMs.toNat)
    (h : Gives m.fields v) : f.metrics (tree v) = .ok m := by
  let draft (given : List String) : Format.MetricsDraft :=
    { logging := drafted given "logging" m.logging
      loggingIntervalMs := drafted given "logging_interval_ms" m.loggingIntervalMs }
  refine F.record_of_gives h draft (by simp [draft, Format.metricsSchema]) ?_ ?_ ?_
  · simp [MetricsConfig.fields, Format.metricsSchema]
  · simp [MetricsConfig.fields, Format.metricsSchema, F.read_bool, F.read_unsigned64 exacts, draft,
      ok_bind, pure_eq_ok]
  · intro given all
    simp only [MetricsConfig.fields, List.forall_mem_cons] at all
    simp [Format.metricsSchema, draft, getD_drafted, all]

/-- A model is read from any of its written forms, if its integers are exact. -/
theorem read_model {m : Model} {v : Value} (exacts : ∀ n ∈ m.integers, exact n)
    (h : Gives m.fields v) : f.model (tree v) = .ok m := by
  let draft (given : List String) : Format.ModelDraft :=
    { active := drafted given "active" m.active, broker := drafted given "broker" m.broker
      services := drafted given "services" m.services
      truststore := drafted given "truststore" m.truststore
      metrics := drafted given "metrics" m.metrics }
  simp only [Model.integers, List.forall_mem_append, List.forall_mem_singleton] at exacts
  obtain ⟨⟨own, listed⟩, interval⟩ := exacts
  have broker (w : Value) (given : Gives m.broker.fields w) : f.broker (tree w) = .ok m.broker :=
    F.read_broker own given
  have services (w : Value) (given : Lists ServiceConfig.fields m.services w) :
      f.list f.service (tree w) = .ok m.services :=
    F.read_lists given fun c hc _ => F.read_service fun n hn => listed n (List.mem_flatMap.2 ⟨c, hc, hn⟩)
  have metrics (w : Value) (given : Gives m.metrics.fields w) : f.metrics (tree w) = .ok m.metrics :=
    F.read_metrics interval given
  refine F.record_of_gives h draft (by simp [draft, Format.modelSchema]) ?_ ?_ ?_
  · simp [Model.fields, Format.modelSchema]
  · simp +contextual [Model.fields, Format.modelSchema, F.read_bool, F.read_orNull, broker, services,
      metrics, draft, ok_bind, pure_eq_ok]
  · intro given all
    simp only [Model.fields, List.forall_mem_cons, false_or] at all
    simp [Format.modelSchema, draft, required_drafted, getD_drafted, all, ok_bind, pure_eq_ok]

end Faithful

/-! ## Unknown fields -/

/-- A tree of a record with an unknown field in it, or in a record within it. -/
inductive Spoilt (f : Format τ) : RecordKind → τ → Prop
  | here {k : RecordKind} {t t' : τ} {members : List (Except Refusal String × τ)} {closed : Bool}
      {name : String} (shape : f.shape t = .object members closed) (mem : (.ok name, t') ∈ members)
      (unknown : name ∉ k.names) : Spoilt f k t
  | part {k k' : RecordKind} {t t' : τ} {members : List (Except Refusal String × τ)} {closed : Bool}
      {name : String} (shape : f.shape t = .object members closed) (mem : (.ok name, t') ∈ members)
      (field : k.Part name k') (h : Spoilt f k' t') : Spoilt f k t
  | item {k k' : RecordKind} {t t' t'' : τ} {members : List (Except Refusal String × τ)}
      {closed closed' : Bool} {name : String} {items : List τ}
      (shape : f.shape t = .object members closed) (mem : (.ok name, t') ∈ members)
      (field : k.Parts name k') (list : f.shape t' = .array items closed') (among : t'' ∈ items)
      (h : Spoilt f k' t'') : Spoilt f k t

/-- A tree that is refused as a record. -/
def Refuses (f : Format τ) : RecordKind → τ → Prop
  | .model, t => ∃ r, f.model t = .error r
  | .broker, t => ∃ r, f.broker t = .error r
  | .service, t => ∃ r, f.service t = .error r
  | .endpoint, t => ∃ r, f.endpoint t = .error r
  | .security, t => ∃ r, f.security t = .error r
  | .basic, t => ∃ r, f.basic t = .error r
  | .metrics, t => ∃ r, f.metrics t = .error r

section

variable {f : Format τ} {t t' : τ}

/-- One member that cannot be put is enough, whatever stands before it. -/
theorem putMembers_error {s : Format.Schema τ δ α} {members : List (Except Refusal String × τ)}
    {name : String} (mem : (.ok name, t) ∈ members)
    (bad : name ∉ s.fields ∨ ∀ d, ∃ r, s.put name t d = .error r) (given : List String) (d : δ) :
    ∃ r, Format.putMembers s given members d = .error r := by
  induction members generalizing given d with
  | nil => cases mem
  | cons m ms ih =>
    obtain ⟨named, u⟩ := m
    cases named with
    | error r => exact ⟨r, rfl⟩
    | ok n =>
      rw [Format.putMembers]
      split
      · exact ⟨_, rfl⟩
      · rename_i field
        split
        · exact ⟨_, rfl⟩
        · rcases List.mem_cons.1 mem with same | mem
          · cases same
            have known : name ∈ s.fields := by simpa using field
            obtain ⟨r, refused⟩ := bad.resolve_left (fun h => h known) d
            exact ⟨r, by rw [refused]⟩
          · split
            · exact ih mem _ _
            · exact ⟨_, rfl⟩

theorem record_error {s : Format.Schema τ δ α} {members : List (Except Refusal String × τ)}
    {closed : Bool} {name : String} (shape : f.shape t = .object members closed)
    (mem : (.ok name, t') ∈ members)
    (bad : name ∉ s.fields ∨ ∀ d, ∃ r, s.put name t' d = .error r) : ∃ r, f.record s t = .error r := by
  obtain ⟨r, refused⟩ := putMembers_error mem bad [] s.empty
  refine ⟨r, ?_⟩
  rw [Format.record, shape]
  simp [refused, error_bind]

theorem bind_error {β : Type} {x : Except Refusal α} (h : ∃ r, x = .error r) (g : α → Except Refusal β) :
    ∃ r, (x >>= g) = .error r := by
  obtain ⟨r, rfl⟩ := h
  exact ⟨r, rfl⟩

theorem mapM_error {read : τ → Except Refusal α} {items : List τ} (among : t ∈ items)
    (bad : ∃ r, read t = .error r) : ∃ r, items.mapM read = .error r := by
  induction items with
  | nil => cases among
  | cons u us ih =>
    rw [List.mapM_cons]
    cases first : read u with
    | error r => exact ⟨r, rfl⟩
    | ok a =>
      rcases List.mem_cons.1 among with rfl | among
      · obtain ⟨r, refused⟩ := bad
        rw [first] at refused
        cases refused
      · exact bind_error (ih among) _

theorem list_error {read : τ → Except Refusal α} {items : List τ} {closed : Bool}
    (shape : f.shape t = .array items closed) (among : t' ∈ items)
    (bad : ∃ r, read t' = .error r) : ∃ r, f.list read t = .error r := by
  obtain ⟨r, refused⟩ := mapM_error among bad
  refine ⟨r, ?_⟩
  rw [Format.list, shape]
  simp [refused, error_bind]

theorem optional_error {read : τ → Except Refusal α} {members : List (Except Refusal String × τ)}
    {closed : Bool} (shape : f.shape t = .object members closed) (bad : ∃ r, read t = .error r) :
    ∃ r, f.optional read t = .error r := by
  obtain ⟨r, refused⟩ := bad
  refine ⟨r, ?_⟩
  rw [Format.optional, shape, refused]
  rfl

theorem Spoilt.shape {k : RecordKind} (h : Spoilt f k t) :
    ∃ members closed, f.shape t = .object members closed := by
  cases h <;> exact ⟨_, _, by assumption⟩

/-- A record with an unknown field anywhere in it is refused. -/
theorem Spoilt.refuses {k : RecordKind} (h : Spoilt f k t) : Refuses f k t := by
  induction h with
  | @here k _ _ _ _ _ shape mem unknown =>
    cases k <;> exact record_error shape mem (.inl unknown)
  | part shape mem field h ih =>
    cases field with
    | broker => exact record_error shape mem (.inr fun d => bind_error ih _)
    | metrics => exact record_error shape mem (.inr fun d => bind_error ih _)
    | security => exact record_error shape mem (.inr fun d => bind_error ih _)
    | basic =>
      obtain ⟨_, _, present⟩ := h.shape
      exact record_error shape mem (.inr fun d => bind_error (optional_error present ih) _)
  | item shape mem field list among h ih =>
    cases field with
    | services => exact record_error shape mem (.inr fun d => bind_error (list_error list among ih) _)
    | endpoints => exact record_error shape mem (.inr fun d => bind_error (list_error list among ih) _)

end

end TopicRelay.Config
