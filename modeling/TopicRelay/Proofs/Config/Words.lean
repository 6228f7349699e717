/-
What written models consist of: natural numbers of at most 64 bits, and texts that are either names of
fields or texts of the model. A text of the model that is not a default is written, so the texts of a
written form are of a kind exactly if those of the model are. No written form nests deeper than five.
-/
import TopicRelay.Proofs.Config.Renditions

namespace TopicRelay.Config

open TopicRelay.Json TopicRelay.Decimal

/-! ## Parts -/

section

variable {V : Vocabulary} {P : String → Prop} {v : Value}

@[simp]
theorem over_text {s : String} : (Value.text s).Over V ↔ V.text s :=
  ⟨fun h => by cases h; assumption, .text⟩

@[simp]
theorem over_bool {b : Bool} : (Value.bool b).Over V ↔ True :=
  ⟨fun _ => trivial, fun _ => .bool b⟩

@[simp]
theorem over_natural {n : Nat} : (natural n).Over (naturals P) ↔ n < twoTo 64 := by
  constructor
  · rintro ⟨⟩
    rename_i h
    obtain ⟨k, small, same⟩ := h
    cases same
    exact small
  · exact fun small => .number ⟨n, small, rfl⟩

@[simp]
theorem over_orNull {o : Option String} : (orNull Value.text o).Over V ↔ ∀ s ∈ o, V.text s := by
  cases o with
  | none => exact ⟨fun _ => nofun, fun _ => .null⟩
  | some s => simp [orNull]

theorem Gives.over {fields : List RecordField} (h : Gives fields v)
    (each : ∀ f ∈ fields, P f.name ∧ ∀ w, f.holds w → w.Over (naturals P)) :
    v.Over (naturals P) := by
  obtain ⟨-, known, -⟩ := h
  refine .object trivial (fun m hm => ?_) fun m hm => ?_ <;> obtain ⟨f, hf, named, held⟩ := known m hm
  · exact named ▸ (each f hf).1
  · exact (each f hf).2 _ held

theorem MayGive.over {α : Type} {fields : α → List RecordField} {o : Option α} (h : MayGive fields o v)
    (each : ∀ a ∈ o, ∀ w, Gives (fields a) w → w.Over V) : v.Over V := by
  cases o with
  | none => exact h ▸ .null
  | some a => exact each a rfl v h

theorem Lists.over {α : Type} {fields : α → List RecordField} {as : List α} (h : Lists fields as v)
    (each : ∀ a ∈ as, ∀ w, Gives (fields a) w → w.Over V) : v.Over V := by
  obtain ⟨vs, rfl, paired⟩ := h
  refine .array fun w hw => ?_
  induction paired with
  | nil => cases hw
  | cons given _ ih =>
    rcases List.mem_cons.1 hw with rfl | hw
    · exact each _ List.mem_cons_self w given
    · exact ih (fun a ha => each a (List.mem_cons_of_mem _ ha)) hw

/-- A field that may not be left out is there. -/
theorem Gives.exists_of_over {fields : List RecordField} (h : Gives fields v) (made : v.Over V) :
    ∀ f ∈ fields, f.spare ∨ ∃ w, f.holds w ∧ w.Over V := by
  obtain ⟨-, -, complete⟩ := h
  cases made with
  | object _ _ parts =>
    exact fun f hf => (complete f hf).imp_right fun ⟨m, hm, _, held⟩ => ⟨m.2, held, parts m hm⟩

theorem Lists.exists_of_over {α : Type} {fields : α → List RecordField} {as : List α}
    (h : Lists fields as v) (made : v.Over V) : ∀ a ∈ as, ∃ w, Gives (fields a) w ∧ w.Over V := by
  obtain ⟨vs, rfl, paired⟩ := h
  cases made with
  | array parts =>
    intro a ha
    induction paired with
    | nil => cases ha
    | cons given _ ih =>
      rcases List.mem_cons.1 ha with rfl | ha
      · exact ⟨_, given, parts _ List.mem_cons_self⟩
      · exact ih (fun w hw => parts w (List.mem_cons_of_mem _ hw)) ha

theorem MayGive.exists_of_over {α : Type} {fields : α → List RecordField} {o : Option α}
    (h : MayGive fields o v) (made : v.Over V) : ∀ a ∈ o, ∃ w, Gives (fields a) w ∧ w.Over V := by
  rintro a ⟨⟩
  exact ⟨v, h, made⟩

end

/-! ## Records -/

section

variable {P : String → Prop} {v : Value} (names : ∀ k : RecordKind, ∀ n ∈ k.names, P n)

include names

theorem BasicAuthentication.over {b : BasicAuthentication} (texts : ∀ s ∈ b.texts, P s)
    (h : Gives b.fields v) : v.Over (naturals P) := by
  have known := names .basic
  simp only [RecordKind.names, List.forall_mem_cons] at known
  simp only [BasicAuthentication.texts, List.forall_mem_cons] at texts
  exact h.over (by simp [fields, known, texts])

theorem SecurityConfig.over {c : SecurityConfig} (texts : ∀ s ∈ c.texts, P s)
    (h : Gives c.fields v) : v.Over (naturals P) := by
  have known := names .security
  simp only [RecordKind.names, List.forall_mem_cons] at known
  have basic : ∀ w, MayGive BasicAuthentication.fields c.basic w → w.Over (naturals P) :=
    fun w given => given.over fun b hb w => BasicAuthentication.over names fun s hs =>
      texts s (List.mem_flatMap.2 ⟨b, Option.mem_toList.2 hb, hs⟩)
  exact h.over (by simpa [fields, known] using basic)

theorem EndpointConfig.over {e : EndpointConfig} (texts : ∀ s ∈ e.texts, P s)
    (h : Gives e.fields v) : v.Over (naturals P) := by
  have known := names .endpoint
  simp only [RecordKind.names, List.forall_mem_cons] at known
  simp only [EndpointConfig.texts, List.forall_mem_cons] at texts
  exact h.over (by simp [fields, known, texts])

theorem ServiceConfig.over {c : ServiceConfig} (texts : ∀ s ∈ c.texts, P s)
    (h : Gives c.fields v) : v.Over (naturals P) := by
  have known := names .service
  simp only [RecordKind.names, List.forall_mem_cons] at known
  simp only [ServiceConfig.texts, List.forall_mem_append, List.forall_mem_cons] at texts
  obtain ⟨⟨own, listed⟩, secured⟩ := texts
  have endpoints : ∀ w, Lists EndpointConfig.fields c.endpoints w → w.Over (naturals P) :=
    fun w given => given.over fun e he w => EndpointConfig.over names fun s hs =>
      listed s (List.mem_flatMap.2 ⟨e, he, hs⟩)
  have security : ∀ w, Gives c.security.fields w → w.Over (naturals P) :=
    fun w => SecurityConfig.over names secured
  have port : c.port.toNat < twoTo 64 := Nat.lt_trans c.port.toNat_lt (by decide)
  have period : c.pollPeriodMs.toNat < twoTo 64 := c.pollPeriodMs.toNat_lt
  exact h.over (by simpa [fields, known, own, port, period] using ⟨endpoints, security⟩)

theorem BrokerConfig.over {b : BrokerConfig} (texts : ∀ s ∈ b.texts, P s)
    (h : Gives b.fields v) : v.Over (naturals P) := by
  have known := names .broker
  simp only [RecordKind.names, List.forall_mem_cons] at known
  simp only [BrokerConfig.texts, List.forall_mem_append, List.forall_mem_cons, Option.mem_toList] at texts
  have bits16 (n : UInt16) : n.toNat < twoTo 64 := Nat.lt_trans n.toNat_lt (by decide)
  have bits32 (n : UInt32) : n.toNat < twoTo 64 := Nat.lt_trans n.toNat_lt (by decide)
  have bits64 (n : UInt64) : n.toNat < twoTo 64 := n.toNat_lt
  exact h.over (by simpa [fields, known, texts, bits16, bits32, bits64] using ⟨texts.1.2, texts.2⟩)

theorem MetricsConfig.over {m : MetricsConfig} (h : Gives m.fields v) : v.Over (naturals P) := by
  have known := names .metrics
  simp only [RecordKind.names, List.forall_mem_cons] at known
  have interval : m.loggingIntervalMs.toNat < twoTo 64 := m.loggingIntervalMs.toNat_lt
  exact h.over (by simp [fields, known, interval])

theorem Model.over {m : Model} (texts : ∀ s ∈ m.texts, P s) (h : Gives m.fields v) :
    v.Over (naturals P) := by
  have known := names .model
  simp only [RecordKind.names, List.forall_mem_cons] at known
  simp only [Model.texts, List.forall_mem_append, Option.mem_toList] at texts
  obtain ⟨⟨own, listed⟩, trusted⟩ := texts
  have broker : ∀ w, Gives m.broker.fields w → w.Over (naturals P) :=
    fun w => BrokerConfig.over names own
  have services : ∀ w, Lists ServiceConfig.fields m.services w → w.Over (naturals P) :=
    fun w given => given.over fun c hc w => ServiceConfig.over names fun s hs =>
      listed s (List.mem_flatMap.2 ⟨c, hc, hs⟩)
  have metrics : ∀ w, Gives m.metrics.fields w → w.Over (naturals P) :=
    fun w => MetricsConfig.over names
  exact h.over (by simpa [fields, known] using ⟨broker, services, trusted, metrics⟩)

omit names

/-! ### Texts that are written -/

section

variable (auto : P "auto")

theorem BasicAuthentication.texts_of_over {b : BasicAuthentication} (h : Gives b.fields v)
    (made : v.Over (naturals P)) : ∀ s ∈ b.texts, P s := by
  simpa [fields, texts] using h.exists_of_over made

theorem SecurityConfig.texts_of_over {c : SecurityConfig} (h : Gives c.fields v)
    (made : v.Over (naturals P)) : ∀ s ∈ c.texts, P s := by
  have given := h.exists_of_over made
  simp only [fields, List.forall_mem_singleton] at given
  intro s hs
  obtain ⟨b, hb, hs⟩ := List.mem_flatMap.1 hs
  rcases given with none | ⟨w, given, made⟩
  · rw [none] at hb
    cases hb
  · obtain ⟨w, given, made⟩ := given.exists_of_over made b (Option.mem_toList.1 hb)
    exact BasicAuthentication.texts_of_over given made s hs

theorem Lists.texts_of_over {α : Type} {fields : α → List RecordField} {texts : α → List String}
    {as : List α} (each : ∀ a w, Gives (fields a) w → w.Over (naturals P) → ∀ s ∈ texts a, P s)
    (given : as = [] ∨ ∃ w, Lists fields as w ∧ w.Over (naturals P)) :
    ∀ s ∈ as.flatMap texts, P s := by
  intro s hs
  obtain ⟨a, ha, hs⟩ := List.mem_flatMap.1 hs
  rcases given with rfl | ⟨w, given, made⟩
  · cases ha
  · obtain ⟨w, given, made⟩ := given.exists_of_over made a ha
    exact each a w given made s hs

include auto

theorem EndpointConfig.texts_of_over {e : EndpointConfig} (h : Gives e.fields v)
    (made : v.Over (naturals P)) : ∀ s ∈ e.texts, P s := by
  obtain ⟨name, url, path, produces⟩ :
      P e.name ∧ P e.url ∧ P e.topicPath ∧ (e.produces = "auto" ∨ P e.produces) := by
    simpa [fields] using h.exists_of_over made
  simpa [texts] using ⟨name, url, path, produces.elim (· ▸ auto) id⟩

theorem ServiceConfig.texts_of_over {c : ServiceConfig} (h : Gives c.fields v)
    (made : v.Over (naturals P)) : ∀ s ∈ c.texts, P s := by
  have given := h.exists_of_over made
  simp only [fields, List.forall_mem_cons, false_or, exists_eq_left, over_text, naturals_text] at given
  obtain ⟨name, host, -, -, endpoints, -, root, security, -⟩ := given
  have own : ∀ s ∈ [c.name, c.host, c.topicPathRoot], P s := by simp [name, host, root]
  have secured : ∀ s ∈ c.security.texts, P s := by
    rcases security with same | ⟨w, given, made⟩
    · rw [same]
      exact nofun
    · exact SecurityConfig.texts_of_over given made
  rw [texts, List.forall_mem_append, List.forall_mem_append]
  exact ⟨⟨own, Lists.texts_of_over (fun _ _ => EndpointConfig.texts_of_over auto) endpoints⟩, secured⟩

omit auto

theorem BrokerConfig.texts_of_over {b : BrokerConfig} (h : Gives b.fields v)
    (made : v.Over (naturals P)) : ∀ s ∈ b.texts, P s := by
  have given := h.exists_of_over made
  simp only [fields, List.forall_mem_cons, false_or, exists_eq_left, over_text, over_orNull,
    naturals_text] at given
  obtain ⟨host, -, -, principal, password, -⟩ := given
  have optional {o : Option String} (h : o = none ∨ ∀ s ∈ o, P s) : ∀ s ∈ o.toList, P s := by
    rcases h with rfl | h
    · exact nofun
    · exact fun s hs => h s (Option.mem_toList.1 hs)
  rw [texts, List.forall_mem_append, List.forall_mem_append]
  exact ⟨⟨by simpa using host, optional principal⟩, optional password⟩

include auto

theorem Model.texts_of_over {m : Model} (h : Gives m.fields v) (made : v.Over (naturals P)) :
    ∀ s ∈ m.texts, P s := by
  have given := h.exists_of_over made
  simp only [fields, List.forall_mem_cons, false_or, exists_eq_left, over_orNull,
    naturals_text] at given
  obtain ⟨-, ⟨w, broker, brokered⟩, services, truststore, -⟩ := given
  have trusted : ∀ s ∈ m.truststore.toList, P s := by
    rcases truststore with none | h
    · rw [none]
      exact nofun
    · exact fun s hs => h s (Option.mem_toList.1 hs)
  rw [texts, List.forall_mem_append, List.forall_mem_append]
  exact ⟨⟨BrokerConfig.texts_of_over broker brokered,
    Lists.texts_of_over (fun _ _ => ServiceConfig.texts_of_over auto) services⟩, trusted⟩

end

end

/-! ## Depth -/

section

variable {v : Value}

@[simp]
theorem depth_orNull {o : Option String} : (orNull Value.text o).depth = 0 := by
  cases o <;> rfl

theorem Gives.depth_le {fields : List RecordField} (h : Gives fields v) {d : Nat}
    (each : ∀ f ∈ fields, ∀ w, f.holds w → w.depth ≤ d) : v.depth ≤ d + 1 := by
  obtain ⟨-, known, -⟩ := h
  refine Value.depth_object_le.2 fun m hm => ?_
  obtain ⟨f, hf, -, held⟩ := known m hm
  exact each f hf m.2 held

theorem Lists.depth_le {α : Type} {fields : α → List RecordField} {as : List α} (h : Lists fields as v)
    {d : Nat} (each : ∀ a w, Gives (fields a) w → w.depth ≤ d) : v.depth ≤ d + 1 := by
  obtain ⟨vs, rfl, paired⟩ := h
  refine Value.depth_array_le.2 fun w hw => ?_
  induction paired with
  | nil => cases hw
  | cons given _ ih =>
    rcases List.mem_cons.1 hw with rfl | hw
    · exact each _ w given
    · exact ih hw

theorem MayGive.depth_le {α : Type} {fields : α → List RecordField} {o : Option α}
    (h : MayGive fields o v) {d : Nat} (each : ∀ a w, Gives (fields a) w → w.depth ≤ d) : v.depth ≤ d := by
  cases o with
  | none => exact h ▸ Nat.zero_le d
  | some a => exact each a v h

theorem BasicAuthentication.depth_le {b : BasicAuthentication} (h : Gives b.fields v) : v.depth ≤ 1 :=
  h.depth_le (by simp [fields, Value.depth])

theorem SecurityConfig.depth_le {c : SecurityConfig} (h : Gives c.fields v) : v.depth ≤ 2 :=
  h.depth_le (by
    simpa [fields] using fun w (given : MayGive _ _ w) =>
      given.depth_le fun _ _ => BasicAuthentication.depth_le)

theorem EndpointConfig.depth_le {e : EndpointConfig} (h : Gives e.fields v) : v.depth ≤ 1 :=
  h.depth_le (by simp [fields, Value.depth])

theorem ServiceConfig.depth_le {c : ServiceConfig} (h : Gives c.fields v) : v.depth ≤ 3 := by
  have endpoints (w : Value) (given : Lists EndpointConfig.fields c.endpoints w) : w.depth ≤ 2 :=
    given.depth_le fun _ _ => EndpointConfig.depth_le
  have security (w : Value) : Gives c.security.fields w → w.depth ≤ 2 := SecurityConfig.depth_le
  exact h.depth_le (by simpa [fields, Value.depth, natural] using ⟨endpoints, security⟩)

theorem BrokerConfig.depth_le {b : BrokerConfig} (h : Gives b.fields v) : v.depth ≤ 1 :=
  h.depth_le (by simp [fields, Value.depth, natural])

theorem MetricsConfig.depth_le {m : MetricsConfig} (h : Gives m.fields v) : v.depth ≤ 1 :=
  h.depth_le (by simp [fields, Value.depth, natural])

/-- No written form of a model nests deeper than five. -/
theorem Model.depth_le {m : Model} (h : Gives m.fields v) : v.depth ≤ 5 := by
  have broker (w : Value) (given : Gives m.broker.fields w) : w.depth ≤ 4 :=
    Nat.le_trans (BrokerConfig.depth_le given) (by decide)
  have services (w : Value) (given : Lists ServiceConfig.fields m.services w) : w.depth ≤ 4 :=
    given.depth_le fun _ _ => ServiceConfig.depth_le
  have metrics (w : Value) (given : Gives m.metrics.fields w) : w.depth ≤ 4 :=
    Nat.le_trans (MetricsConfig.depth_le given) (by decide)
  exact h.depth_le (by simpa [fields, Value.depth] using ⟨broker, services, metrics⟩)

end

end TopicRelay.Config
