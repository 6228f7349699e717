/-
The state of the lifecycle and what it holds agree, after every run of events in any order: an
attempt is recorded exactly while it connects, services run and an HTTP layer is there only while it
is active, and nothing is held after the end.
-/
import TopicRelay.Proofs.Control.Course

namespace TopicRelay.Control

open TopicRelay.Broker TopicRelay.Config TopicRelay.Content TopicRelay.Polling

open LifecycleEffect

variable {env : Surroundings} {m : Model} {rebuild : Bool} {l l' : Lifecycle} {ev : LifecycleEvent}
  {layer : BrokerLayer} {ds : List LifecycleEffect} {e : Option LifecycleError}

namespace Lifecycle

/-! ## Runs -/

/-- A lifecycle that has taken no event. -/
def fresh (shutdownAwaited observed : Bool) : Lifecycle :=
  { shutdownAwaited, observed }

/-- Takes events one after the other, each with what it finds outside. -/
def run : Lifecycle → List (Surroundings × LifecycleEvent) → Course
  | l, [] => { life := l }
  | l, (env, ev) :: rest => (l.step env ev).andThen fun l => l.run rest

/-- What every step keeps holds after every run. -/
theorem run_induction {P : Lifecycle → Prop}
    (step : ∀ (l : Lifecycle) (env : Surroundings) (ev : LifecycleEvent), P l → P (l.step env ev).life)
    {l : Lifecycle} (h : P l) (evs : List (Surroundings × LifecycleEvent)) : P (l.run evs).life := by
  induction evs generalizing l with
  | nil => exact h
  | cons p rest ih => exact ih (step l p.1 p.2 h)

/-! ## The invariant -/

/-- The state and what is held agree. -/
structure Agreement (l : Lifecycle) : Prop where
  attempting : l.state = .connecting ↔ l.connecting.isSome = true
  attempt : ∀ a, l.connecting = some a →
    (∃ m, l.model = some m ∧ a.serves m = true) ∧ l.layer = none
  active : l.state = .active → ∃ m layer http, l.model = some m ∧ l.layer = some layer ∧
    layer.serves m = true ∧ l.http = some http
  stopped : l.state = .stopped → l.layer = none
  bare : l.state ≠ .active → l.http = none ∧ l.services.running = []

theorem fresh_agreement (shutdownAwaited observed : Bool) : (fresh shutdownAwaited observed).Agreement := by
  constructor <;> simp [fresh]

theorem Agreement.connecting_eq_none {l : Lifecycle} (h : l.Agreement) (hs : l.state ≠ .connecting) :
    l.connecting = none := by
  rw [← Option.not_isSome_iff_eq_none, ← h.attempting]
  exact hs

/-- While it connects there is an attempt, for what the current model needs, and no session. -/
theorem Agreement.of_connecting {l : Lifecycle} (h : l.Agreement) (hs : l.state = .connecting) :
    ∃ a m, l.connecting = some a ∧ l.model = some m ∧ a.serves m = true ∧ l.layer = none := by
  obtain ⟨a, ha⟩ := Option.isSome_iff_exists.1 (h.attempting.1 hs)
  obtain ⟨⟨m, hm, suits⟩, hl⟩ := h.attempt a ha
  exact ⟨a, m, ha, hm, suits, hl⟩

/-- An attempt that ends without a session leaves nothing. -/
theorem Agreement.recovering {l : Lifecycle} (h : l.Agreement) (hs : l.state = .connecting) :
    Agreement { l with connecting := none, state := .recovering } := by
  have bare := h.bare (by rw [hs]; nofun)
  exact ⟨⟨nofun, nofun⟩, nofun, nofun, nofun, fun _ => bare⟩

theorem Serve.agreement (mv : Serve env m rebuild l layer l' ds e) (asked : l.model = some m)
    (held : l.layer = some layer) (suits : layer.serves m = true) (none : l.connecting = none) : l'.Agreement := by
  cases mv with
  | failed needed failure => constructor <;> simp [halted, none]
  | rebuilt needed built => constructor <;> simp [serving, none, asked, held, suits]
  | reused kept there => constructor <;> simp [serving, none, asked, held, suits]

theorem Move.agreement (h : l.Agreement) (mv : Move env l ev l' ds e) : l'.Agreement := by
  cases mv with
  | ignored ended => exact h
  | deactivated on off => constructor <;> simp [cleared, halted]
  | rested on active idle => constructor <;> simp [halted]
  | @kept m active busy suits same =>
    refine ⟨h.attempting, ?_, ?_, h.stopped, h.bare⟩
    · intro a ha
      have hs : l.state = .connecting := h.attempting.2 (by rw [ha]; rfl)
      -- an attempt excludes the active state, so it is the attempt that suits the model
      rcases suits with ⟨-, hm⟩ | ⟨hs', -⟩
      · rw [show l.connecting = some a from ha] at hm
        exact ⟨⟨m, rfl, hm⟩, (h.attempt a ha).2⟩
      · rw [hs] at hs'; cases hs'
    · intro hs
      obtain ⟨-, layer, http, -, hl, -, hh⟩ := h.active hs
      rcases suits with ⟨hs', -⟩ | ⟨-, hm⟩
      · rw [show l.state = .active from hs] at hs'; cases hs'
      · rw [hl] at hm
        exact ⟨m, layer, http, rfl, hl, hm, hh⟩
  | served active busy running held suits differs serve =>
    exact serve.agreement rfl held suits (h.connecting_eq_none (by rw [running]; decide))
  | untrusted on active busy unsuited refused => constructor <;> simp [cleared, halted]
  | dialled on active busy unsuited loaded => constructor <;> simp [cleared, halted, Attempt.serves]
  | ended ended => exact h
  | closed on => constructor <;> simp [cleared, halted]
  | discarded stale => exact h
  | failed connecting => exact h.recovering connecting
  | unasked connecting absent => exact h.recovering connecting
  | accepted connecting asked taken serve =>
    exact serve.agreement asked rfl (by simp [taken, BrokerLayer.serves]) rfl
  | unheard stale => exact h
  | lost on ours quiet unattempted =>
    exact ⟨h.attempting, fun a ha => ⟨(h.attempt a ha).1, rfl⟩, fun hs => absurd hs quiet, fun _ => rfl, h.bare⟩
  | severed on ours bears => constructor <;> simp [bereft, halted]

theorem step_agreement (env : Surroundings) {l : Lifecycle} (ev : LifecycleEvent) (h : l.Agreement) :
    (l.step env ev).life.Agreement :=
  (move_step env l ev).agreement h

theorem run_agreement {l : Lifecycle} (h : l.Agreement) (evs : List (Surroundings × LifecycleEvent)) :
    (l.run evs).life.Agreement :=
  run_induction (fun _ env ev => step_agreement env ev) h evs

end Lifecycle

/-! ## Services are replaced whenever they are to be -/

/-- The services are replaced in a course: the entry that this begins is among its effects. -/
def Course.ReplacesServices (c : Course) : Prop :=
  ∃ fields, LifecycleEffect.services (.log (Services.entry .info "services_reconfigure_start" fields)) ∈
    c.effects

theorem Course.ReplacesServices.andThen_left {c : Course} (h : c.ReplacesServices)
    (f : Lifecycle → Course) : (c.andThen f).ReplacesServices := by
  obtain ⟨fields, hf⟩ := h
  exact ⟨fields, List.mem_append_left _ hf⟩

theorem Course.ReplacesServices.andThen_right {c : Course} {f : Lifecycle → Course}
    (h : (f c.life).ReplacesServices) : (c.andThen f).ReplacesServices := by
  obtain ⟨fields, hf⟩ := h
  exact ⟨fields, List.mem_append_right _ hf⟩

namespace Lifecycle

theorem applyServices_replaces {l : Lifecycle} {layer : BrokerLayer} {http : HttpLayer} (m : Model)
    (hl : l.layer = some layer) (hh : l.http = some http) : (l.applyServices m).ReplacesServices := by
  unfold applyServices Services.reconfigure
  rw [hl, hh]
  exact ⟨_, List.mem_append_left _ (List.mem_cons_self ..)⟩

/-- With a session held, services are replaced unless the HTTP layer that they need cannot be built. -/
theorem serve_replaces (env : Surroundings) (m : Model) (rebuild : Bool) {l : Lifecycle}
    {layer : BrokerLayer} (hl : l.layer = some layer) :
    (l.serve env m rebuild).ReplacesServices ∨
      ∃ e, env.httpFailure = some e ∧ (l.serve env m rebuild).error = some (.httpLayer e) := by
  unfold serve
  split
  · cases env.httpFailure with
    | some e => exact .inr ⟨e, rfl, rfl⟩
    | none => exact .inl (.andThen_right (applyServices_replaces m hl rfl))
  · rename_i hn
    simp only [Bool.or_eq_true, Option.isNone_iff_eq_none, not_or] at hn
    obtain ⟨http, hh⟩ := Option.ne_none_iff_exists'.1 hn.2
    exact .inl (applyServices_replaces m hl hh)

theorem apply_replaces (env : Surroundings) {l : Lifecycle} {m : Model} (running : l.state = .active)
    (suits : l.layer.any (·.serves m) = true) (differs : l.Differs m) :
    (l.apply env m).ReplacesServices ∨ ∃ e, (l.apply env m).error = some (.httpLayer e) := by
  obtain ⟨layer, hl, -⟩ := (Option.any_eq_true _ _).1 suits
  have hserve (rebuild : Bool) := (serve_replaces env m rebuild (l := { l with model := some m }) hl).imp_right
    fun ⟨e, _, he⟩ => Exists.intro e he
  unfold apply
  simp only
  rw [if_neg (fun h => by rw [running] at h; cases h.1), if_pos ⟨running, suits⟩]
  by_cases hd : differInSecurity l.model m = true
  · rw [if_pos hd]
    exact hserve true
  · rw [if_neg hd, if_pos (differs.resolve_left hd)]
    exact hserve false

/-- A model with other services replaces them when the held session suits it, unless the HTTP layer
that it needs cannot be built. -/
theorem reconfigure_replaces (env : Surroundings) {l : Lifecycle} {m : Model} (active : m.active = true)
    (busy : m.isIdle = false) (running : l.state = .active) (suits : l.layer.any (·.serves m) = true)
    (differs : l.Differs m) :
    (l.reconfigure env m).ReplacesServices ∨ ∃ e, (l.reconfigure env m).error = some (.httpLayer e) := by
  have applied : l.reconfigure env m = (l.tell .info "lifecycle_reconfigure"
      [("state", .text l.state.name), ("active", .flag m.active), ("services", .count m.services.length),
        ("broker", .text m.broker.address)]).andThen (apply env m) := by
    unfold reconfigure
    apply Course.andThen_congr
    show (if l.state = .stopped then _ else if (!m.active) = true then _
      else if m.isIdle = true then _ else l.apply env m) = _
    rw [if_neg (by rw [running]; nofun), if_neg (by rw [active]; nofun), if_neg (by rw [busy]; nofun)]
    rfl
  rw [applied]
  exact (apply_replaces env running suits differs).imp .andThen_right id

theorem accept_replaces (env : Surroundings) {l : Lifecycle} {m : Model} (generation : Nat) (s : Session)
    (asked : l.model = some m) :
    (l.accept env generation s).ReplacesServices ∨ ∃ e, env.httpFailure = some e := by
  have h := serve_replaces env m true (l := { l with
    layer := some { session := s, broker := m.broker, truststore := m.truststore, generation } }) rfl
  refine h.imp (fun h => ?_) fun ⟨e, he, _⟩ => ⟨e, he⟩
  unfold accept
  rw [asked]
  simp only
  split
  · exact .andThen_right h
  · exact (Course.ReplacesServices.andThen_right h).andThen_left _

/-- A session that an attempt leads to replaces the services, unless no HTTP layer can be built. -/
theorem opened_replaces (env : Surroundings) {l : Lifecycle} {m : Model} (s : Session)
    (connecting : l.state = .connecting) (asked : l.model = some m) :
    (l.opened env l.generation (.ok s)).ReplacesServices ∨ ∃ e, env.httpFailure = some e := by
  unfold opened
  rw [if_neg (by simp [connecting])]
  exact accept_replaces env l.generation s asked

theorem Serve.closeSession_not_mem (s : Session) (mv : Serve env m rebuild l layer l' ds e) :
    .closeSession s ∉ ds := by
  cases mv <;> simp [retirements, launches]

/-- A session that an attempt leads to is not closed by taking it over. -/
theorem Move.closeSession_not_mem {s : Session} (connecting : l.state = .connecting)
    (asked : l.model = some m) (mv : Move env l (.opened l.generation (.ok s)) l' ds e) :
    .closeSession s ∉ ds := by
  cases mv with
  | discarded stale => exact stale.elim (absurd rfl) (absurd connecting)
  | unasked _ absent => rw [asked] at absent; cases absent
  | accepted _ _ _ serve => exact serve.closeSession_not_mem s

theorem opened_not_closed (env : Surroundings) {l : Lifecycle} {m : Model} (s : Session)
    (connecting : l.state = .connecting) (asked : l.model = some m) :
    .closeSession s ∉ (l.opened env l.generation (.ok s)).effects :=
  fun hs => (opened_spec env l l.generation (.ok s)).closeSession_not_mem connecting asked
    (mem_deeds.2 ⟨hs, rfl⟩)

/-! ## State and resources -/

/-- After every run of models, closings, results of attempts and reports of the broker, in any order:
an attempt is recorded exactly while the lifecycle connects, it is for the broker and the truststore
of the current model, and nothing else is held; while it is active a session for the broker and the
truststore of the current model and an HTTP layer are there; at rest or recovering there is neither
an HTTP layer nor an attempt nor a running service; and after the end nothing is held. So services
are replaced whenever a model is applied through the held session or a session is taken over, unless
the HTTP layer fails, and a session that is taken over always finds a model. -/
theorem state_agrees_with_resources (shutdownAwaited observed : Bool)
    (evs : List (Surroundings × LifecycleEvent)) :
    let l := ((fresh shutdownAwaited observed).run evs).life
    (l.state = .connecting ↔ l.connecting.isSome = true) ∧
    (∀ a, l.connecting = some a →
      (∃ m, l.model = some m ∧ a.broker = m.broker ∧ a.truststore = m.truststore) ∧
      l.layer = none ∧ l.http = none ∧ l.services.running = []) ∧
    (l.state = .active → ∃ m layer http, l.model = some m ∧ l.layer = some layer ∧
      layer.broker = m.broker ∧ layer.truststore = m.truststore ∧ l.http = some http) ∧
    (l.state = .standby ∨ l.state = .recovering →
      l.http = none ∧ l.connecting = none ∧ l.services.running = []) ∧
    (l.state = .stopped →
      l.layer = none ∧ l.http = none ∧ l.connecting = none ∧ l.services.running = []) ∧
    (∀ env m, m.active = true → m.isIdle = false → l.state = .active →
      l.layer.any (·.serves m) = true → l.Differs m →
      (l.step env (.reconfigure m)).ReplacesServices ∨
        ∃ e, (l.step env (.reconfigure m)).error = some (.httpLayer e)) ∧
    (∀ env s, l.state = .connecting →
      l.model ≠ none ∧ .closeSession s ∉ (l.step env (.opened l.generation (.ok s))).effects ∧
      ((l.step env (.opened l.generation (.ok s))).ReplacesServices ∨
        ∃ e, env.httpFailure = some e)) := by
  intro l
  have h : l.Agreement := run_agreement (fresh_agreement shutdownAwaited observed) evs
  refine ⟨h.attempting, ?_, ?_, ?_, ?_, ?_, ?_⟩
  · intro a ha
    have hs : l.state = .connecting := h.attempting.2 (by rw [ha]; rfl)
    obtain ⟨⟨m, hm, suits⟩, hl⟩ := h.attempt a ha
    exact ⟨⟨m, hm, by simpa [Attempt.serves] using suits⟩, hl, h.bare (by rw [hs]; nofun)⟩
  · intro hs
    obtain ⟨m, layer, http, hm, hl, suits, hh⟩ := h.active hs
    obtain ⟨hb, ht⟩ : layer.broker = m.broker ∧ layer.truststore = m.truststore := by
      simpa [BrokerLayer.serves] using suits
    exact ⟨m, layer, http, hm, hl, hb, ht, hh⟩
  · intro hs
    have bare := h.bare (by rcases hs with hs | hs <;> rw [hs] <;> nofun)
    exact ⟨bare.1, h.connecting_eq_none (by rcases hs with hs | hs <;> rw [hs] <;> nofun), bare.2⟩
  · intro hs
    have bare := h.bare (by rw [hs]; nofun)
    exact ⟨h.stopped hs, bare.1, h.connecting_eq_none (by rw [hs]; nofun), bare.2⟩
  · intro env m active busy running suits differs
    exact reconfigure_replaces env active busy running suits differs
  · intro env s connecting
    obtain ⟨-, m, -, hm, -, -⟩ := h.of_connecting connecting
    exact ⟨by rw [hm]; nofun, opened_not_closed env s connecting hm, opened_replaces env s connecting hm⟩

end Lifecycle

end TopicRelay.Control
