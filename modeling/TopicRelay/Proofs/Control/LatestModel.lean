/-
The latest model wins. While the adapter is active, what runs is what the model that was handed over
last asks for: its services, through a session that was opened for its broker with the trust of its
truststore, polling through an HTTP layer that was built for its security settings. Two invariants
carry this through every run: `Fitted` says what the lifecycle knows of itself, and `Provenance` where
its session, its trust and its HTTP layer come from, however late the result of an attempt is delivered
and whatever models came in the meantime.
-/
import TopicRelay.Proofs.Control.Adapter

namespace TopicRelay.Control

open TopicRelay.Broker TopicRelay.Config TopicRelay.Content TopicRelay.Polling

open LifecycleEffect

variable {env : Surroundings} {m : Model} {rebuild : Bool} {l l' : Lifecycle} {ev : LifecycleEvent}
  {layer : BrokerLayer} {ds : List LifecycleEffect} {e : Option LifecycleError}

namespace Lifecycle

/-! ## What runs fits the model -/

/-- What runs through an HTTP layer is what a model asks for. -/
structure Fits (l : Lifecycle) (m : Model) (http : HttpLayer) : Prop where
  asked : l.model = some m
  there : l.http = some http
  services : l.services.running.map (·.config) = m.services.filter checkPollPeriod
  security : http.security = m.security
  trust : http.trust = l.trust
  through : ∀ r ∈ l.services.running, r.context.http = http

/-- The model that is current while there is something to do has something to poll, and while the
lifecycle is active what runs fits it. -/
structure Fitted (l : Lifecycle) : Prop where
  busy : l.state = .connecting ∨ l.state = .active → ∀ m, l.model = some m →
    m.active = true ∧ m.isIdle = false
  fits : l.state = .active → ∃ m http, l.Fits m http

theorem fresh_fitted (shutdownAwaited observed : Bool) : (fresh shutdownAwaited observed).Fitted := by
  constructor <;> simp [fresh]

theorem serving_fits {l : Lifecycle} {m : Model} (layer : BrokerLayer) (http : HttpLayer)
    (asked : l.model = some m) (security : http.security = m.security) (trust : http.trust = l.trust) :
    (l.serving m layer http).Fits m http where
  asked := asked
  there := rfl
  services := Services.map_config_fresh ..
  security := security
  trust := trust
  through := fun r hr => by rw [Services.context_of_mem_fresh hr]

theorem Serve.model (mv : Serve env m rebuild l layer l' ds e) :
    l'.model = l.model ∧ l'.trust = l.trust := by
  cases mv <;> exact ⟨rfl, rfl⟩

theorem Serve.fitted (mv : Serve env m rebuild l layer l' ds e) (asked : l.model = some m)
    (active : m.active = true) (busy : m.isIdle = false)
    (good : rebuild = false → ∀ http, l.http = some http →
      http.security = m.security ∧ http.trust = l.trust) : l'.Fitted := by
  refine ⟨fun _ m' hm => ?_, fun hs => ?_⟩
  · rw [mv.model.1, asked] at hm
    cases hm
    exact ⟨active, busy⟩
  · cases mv with
    | failed => cases hs
    | rebuilt needed built =>
      obtain ⟨h1, h2, h3, h4, h5, h6⟩ := serving_fits layer (l.httpFor m) asked rfl rfl
      exact ⟨m, l.httpFor m, h1, h2, h3, h4, h5, h6⟩
    | reused kept there =>
      obtain ⟨security, trust⟩ := good kept _ there
      exact ⟨m, _, serving_fits layer _ asked security trust⟩

theorem Move.fitted (h : l.Fitted) (mv : Move env l ev l' ds e) : l'.Fitted := by
  cases mv with
  | ignored | ended | discarded | unheard => exact h
  | deactivated | rested | untrusted | closed | failed | unasked | severed =>
    exact ⟨fun hs => hs.elim nofun nofun, nofun⟩
  | dialled on active busy unsuited loaded =>
    refine ⟨fun _ m' hm => ?_, nofun⟩
    cases hm
    exact ⟨active, busy⟩
  | lost on ours quiet unattempted =>
    exact ⟨fun hs => absurd hs (not_or.2 ⟨unattempted, quiet⟩), fun hs => absurd hs quiet⟩
  | @kept m active busy suits same =>
    refine ⟨fun _ m' hm => ?_, fun hs => ?_⟩
    · cases hm
      exact ⟨active, busy⟩
    · -- nothing differs from the previous model, so what fitted it fits this one
      have hs : l.state = .active := hs
      obtain ⟨p, http, h1, h2, h3, h4, h5, h6⟩ := h.fits hs
      have alike : ¬ l.Differs m := same.resolve_left (by rw [hs]; nofun)
      simp only [Differs, differInSecurity, differInServices, h1, bne_iff_ne, ne_eq, not_or, not_not] at alike
      refine ⟨m, http, rfl, h2, ?_, ?_, h5, h6⟩
      · rw [← alike.2]
        exact h3
      · rw [← alike.1]
        exact h4
  | @served m layer l' ds e active busy running held suits differs serve =>
    refine serve.fitted rfl active busy fun hsame http hh => ?_
    obtain ⟨p, http', h1, h2, -, h4, h5, -⟩ := h.fits running
    have hh : l.http = some http := hh
    rw [h2] at hh
    cases hh
    simp only [differInSecurity, h1, bne_eq_false_iff_eq] at hsame
    rw [← hsame]
    exact ⟨h4, h5⟩
  | accepted connecting asked taken serve =>
    obtain ⟨active, busy⟩ := h.busy (.inl connecting) _ asked
    exact serve.fitted asked active busy nofun

/-! ## The current model -/

/-- The model that is current after an event. -/
def asks (l : Lifecycle) : LifecycleEvent → Option Model
  | .reconfigure m => some m
  | _ => l.model

/-- As long as it has not ended, the lifecycle takes every model that it is handed. -/
theorem Move.model (mv : Move env l ev l' ds e) (on : l'.state ≠ .stopped) :
    l.state ≠ .stopped ∧ l'.model = l.asks ev := by
  cases mv with
  | ignored ended | ended ended => exact absurd ended on
  | deactivated | closed => exact absurd rfl on
  | rested on' | untrusted on' | dialled on' | lost on' | severed on' => exact ⟨on', rfl⟩
  | kept | discarded | unheard => exact ⟨on, rfl⟩
  | failed connecting | unasked connecting => exact ⟨by rw [connecting]; nofun, rfl⟩
  | served active busy running held suits differs serve =>
    exact ⟨by rw [running]; nofun, serve.model.1⟩
  | accepted connecting asked taken serve => exact ⟨by rw [connecting]; nofun, serve.model.1⟩

end Lifecycle

/-! ## Where things come from -/

namespace LifecycleEffect

theorem dials_append (files : Files) (es fs : List LifecycleEffect) :
    dials files (es ++ fs) = dials files es ++ dials files fs :=
  List.filterMap_append

theorem dials_deeds (files : Files) (es : List LifecycleEffect) : dials files (deeds es) = dials files es :=
  filterMap_deeds (fun _ => rfl) (fun _ => rfl) es

theorem builds_deeds (es : List LifecycleEffect) : builds (deeds es) = builds es :=
  filterMap_deeds (fun _ => rfl) (fun _ => rfl) es

/-- Where no attempt begins no session is asked for. -/
theorem dials_of_begun (files : Files) {es : List LifecycleEffect} (h : begun es = []) :
    dials files es = [] := by
  unfold begun at h
  unfold dials
  rw [List.filterMap_eq_nil_iff] at h ⊢
  intro e he
  cases e with
  | openSession => exact absurd (h _ he) nofun
  | _ => rfl

end LifecycleEffect

namespace Lifecycle

/-- A session is asked for exactly when an attempt begins, and until then the attempt stays. -/
theorem Move.dials (files : Files) (mv : Move env l ev l' ds e) :
    (LifecycleEffect.dials files ds = [] ∧ ∀ t, l'.connecting = some t →
      l.connecting = some t ∧ l'.generation = l.generation ∧ l'.trust = l.trust) ∨
    ∃ m trust, env.trust m = .ok trust ∧ l'.trust = trust ∧
      l'.connecting = some { broker := m.broker, truststore := m.truststore } ∧
      l.generation < l'.generation ∧
      LifecycleEffect.dials files ds =
        [{ generation := l'.generation, broker := m.broker, trust, files }] := by
  -- where no attempt is left nothing has to stay
  have left : ∀ t, (none : Option Attempt) = some t →
      l.connecting = some t ∧ l'.generation = l.generation ∧ l'.trust = l.trust := nofun
  cases mv with
  | ignored | kept | ended | unheard | lost => exact .inl ⟨rfl, fun t ht => ⟨ht, rfl, rfl⟩⟩
  | @discarded generation result stale =>
    refine .inl ⟨?_, fun t ht => ⟨ht, rfl, rfl⟩⟩
    cases result <;> rfl
  | deactivated on off =>
    refine .inl ⟨?_, left⟩
    rw [dials_append, dials_of_begun files (begun_clearing l)]
    split <;> rfl
  | rested | severed => exact .inl ⟨dials_of_begun files (begun_retirements _), left⟩
  | untrusted | closed => exact .inl ⟨dials_of_begun files (begun_clearing l), left⟩
  | failed | unasked => exact .inl ⟨rfl, left⟩
  | @dialled m trust on active busy unsuited loaded =>
    refine .inr ⟨m, trust, loaded, rfl, rfl, Nat.lt_succ_self _, ?_⟩
    rw [dials_append, dials_of_begun files (begun_clearing l)]
    rfl
  | served active busy running held suits differs serve =>
    obtain ⟨-, h2, h3, -, h5⟩ := serve.frame
    rw [h2, h3, serve.model.2]
    exact .inl ⟨dials_of_begun files h5, fun t ht => ⟨ht, rfl, rfl⟩⟩
  | accepted connecting asked taken serve =>
    obtain ⟨-, h2, -, -, h5⟩ := serve.frame
    rw [h2]
    exact .inl ⟨dials_of_begun files h5, left⟩

/-- A session that is held was held before, or has just been opened for the attempt. -/
theorem Move.layer_origin (h : l.Agreement) (mv : Move env l ev l' ds e) (held : l'.layer = some layer) :
    l'.trust = l.trust ∧ (l.layer = some layer ∨
      ∃ t, l.connecting = some t ∧ ev = .opened l.generation (.ok layer.session) ∧
        layer.broker = t.broker ∧ layer.truststore = t.truststore ∧ layer.generation = l.generation) := by
  cases mv with
  | ignored | kept | ended | discarded | unheard | rested | failed | unasked => exact ⟨rfl, .inl held⟩
  | deactivated | untrusted | dialled | closed | severed | lost => cases held
  | served active busy running _ suits differs serve =>
    rw [serve.frame.1] at held
    exact ⟨serve.model.2, .inl held⟩
  | accepted connecting asked taken serve =>
    rw [serve.frame.1] at held
    cases held
    obtain ⟨t, m, ht, hm, suits, -⟩ := h.of_connecting connecting
    rw [asked] at hm
    cases hm
    simp only [Attempt.serves, Bool.and_eq_true, beq_iff_eq] at suits
    refine ⟨serve.model.2, .inr ⟨t, ht, ?_⟩⟩
    rw [taken]
    exact ⟨rfl, suits.1.symm, suits.2.symm, rfl⟩

theorem Serve.http_origin {http : HttpLayer} (mv : Serve env m rebuild l layer l' ds e)
    (there : l'.http = some http) :
    l.http = some http ∨ (http ∈ builds ds ∧ http.security = m.security) := by
  cases mv with
  | failed => cases there
  | rebuilt =>
    cases there
    exact .inr ⟨List.mem_cons_self .., rfl⟩
  | reused kept there' =>
    cases there
    exact .inl there'

/-- An HTTP layer was there before, or has just been built for the model that is now current. -/
theorem Move.http_origin {http : HttpLayer} (mv : Move env l ev l' ds e) (there : l'.http = some http) :
    l.http = some http ∨ ∃ m, l'.model = some m ∧ http ∈ builds ds ∧ http.security = m.security := by
  cases mv with
  | ignored | kept | ended | discarded | unheard | failed | unasked | lost => exact .inl there
  | deactivated | untrusted | dialled | closed | severed | rested => cases there
  | served active busy running held suits differs serve =>
    exact (serve.http_origin there).imp id fun h => ⟨_, serve.model.1, h⟩
  | accepted connecting asked taken serve =>
    exact (serve.http_origin there).imp id fun h => ⟨_, serve.model.1.trans asked, h⟩

end Lifecycle

/-- The trust of a session that was asked for was loaded from a truststore. -/
def Dial.Loads (d : Dial) (truststore : Option String) : Prop :=
  ∀ m : Model, m.truststore = truststore → Trust.Context.ofModel d.files m = .ok d.trust

theorem ofModel_congr {files : Files} {m p : Model} (h : m.truststore = p.truststore) :
    Trust.Context.ofModel files m = Trust.Context.ofModel files p := by
  unfold Trust.Context.ofModel
  rw [h]

namespace Adapter

/-- Where the session, the trust and the HTTP layer of the lifecycle come from. -/
structure Provenance (a : Adapter) : Prop where
  agreement : a.life.Agreement
  fitted : a.life.Fitted
  reached : ∀ d ∈ a.dials, d.generation ≤ a.life.generation
  attempt : ∀ t, a.life.connecting = some t → ∀ d ∈ a.dials, d.generation = a.life.generation →
    d.broker = t.broker ∧ d.trust = a.life.trust ∧ d.Loads t.truststore
  waiting : ∀ d ∈ a.waiting, d ∈ a.dials
  undelivered : ∀ p ∈ a.undelivered, p.1 ∈ a.dials ∧
    ∀ s ∈ Lifecycle.carried p.2, s.broker = p.1.broker ∧ s.trust = p.1.trust
  layer : ∀ layer, a.life.layer = some layer →
    layer.session.broker = layer.broker ∧ layer.session.trust = a.life.trust ∧
    ∃ d ∈ a.dials, d.generation = layer.generation ∧ d.broker = layer.broker ∧
      d.trust = layer.session.trust ∧ d.Loads layer.truststore
  http : ∀ http, a.life.http = some http → ∃ m, (some m, http) ∈ a.built ∧ m.security = http.security

theorem fresh_provenance (shutdownAwaited observed : Bool) : (fresh shutdownAwaited observed).Provenance where
  agreement := Lifecycle.fresh_agreement shutdownAwaited observed
  fitted := Lifecycle.fresh_fitted shutdownAwaited observed
  reached := fun _ hd => nomatch hd
  attempt := fun _ _ _ hd => nomatch hd
  waiting := fun _ hd => nomatch hd
  undelivered := fun _ hp => nomatch hp
  layer := fun _ hl => nomatch hl
  http := fun _ hh => nomatch hh

/-- The session that an event carries was opened for a session that was asked for. -/
def Asked (a : Adapter) (ev : LifecycleEvent) : Prop :=
  ∀ s ∈ ev.carried, ∃ d ∈ a.dials, ev.generation? = some d.generation ∧ s.broker = d.broker ∧ s.trust = d.trust

theorem Provenance.drive {a : Adapter} {ev : LifecycleEvent} (h : a.Provenance) (asked : a.Asked ev) :
    (a.drive ev).Provenance := by
  have mv := Lifecycle.move_step a.surroundings a.life ev
  have hdials := mv.dials a.files
  have hhttp (http : HttpLayer) (there : _ = some http) := mv.http_origin there
  rw [Course.deeds, dials_deeds] at hdials
  rw [Course.deeds, builds_deeds] at hhttp
  have older {d : Dial} (hd : d ∈ a.dials) : d ∈ (a.drive ev).dials := List.mem_append_left _ hd
  refine ⟨mv.agreement h.agreement, mv.fitted h.fitted, ?_, ?_, ?_, ?_, ?_, ?_⟩
  · intro d hd
    rcases List.mem_append.1 hd with hd | hd
    · exact Nat.le_trans (h.reached d hd) mv.generation_le
    · rcases hdials with ⟨none, -⟩ | ⟨m, trust, -, -, -, -, one⟩
      · rw [none] at hd
        cases hd
      · rw [one] at hd
        cases List.mem_singleton.1 hd
        exact Nat.le_refl _
  · intro t ht d hd hg
    rcases hdials with ⟨none, stays⟩ | ⟨m, trust, loaded, htrust, hconn, hlt, one⟩
    · obtain ⟨ht, hg', htrust⟩ := stays t ht
      have hd : d ∈ a.dials := by simpa [Adapter.drive, none] using hd
      rw [show (a.drive ev).life.trust = a.life.trust from htrust]
      exact h.attempt t ht d hd (hg.trans hg')
    · rcases List.mem_append.1 hd with hd | hd
      · -- a new attempt is of a generation that no session was asked for in before
        exact absurd hg (Nat.ne_of_lt (Nat.lt_of_le_of_lt (h.reached d hd) hlt))
      · rw [one] at hd
        cases List.mem_singleton.1 hd
        cases hconn.symm.trans ht
        refine ⟨rfl, htrust.symm, fun p hp => ?_⟩
        rw [ofModel_congr hp]
        exact loaded
  · intro d hd
    rcases List.mem_append.1 hd with hd | hd
    · exact older (h.waiting d hd)
    · exact List.mem_append_right _ hd
  · intro p hp
    obtain ⟨hd, hs⟩ := h.undelivered p hp
    exact ⟨older hd, hs⟩
  · intro layer hl
    obtain ⟨htrust, held | ⟨t, ht, rfl, hbroker, htruststore, hgeneration⟩⟩ := mv.layer_origin h.agreement hl
    · obtain ⟨h1, h2, d, hd, h3⟩ := h.layer layer held
      exact ⟨h1, h2.trans htrust.symm, d, older hd, h3⟩
    · -- the session was asked for in the generation of the attempt, hence for what the attempt is for
      obtain ⟨d, hd, hg, h1, h2⟩ := asked layer.session (List.mem_singleton.2 rfl)
      have hg : d.generation = a.life.generation := (Option.some.inj hg).symm
      obtain ⟨h3, h4, h5⟩ := h.attempt t ht d hd hg
      refine ⟨?_, ?_, d, older hd, hg.trans hgeneration.symm, h3.trans hbroker.symm, h2.symm, ?_⟩
      · rw [h1, h3, hbroker]
      · exact (h2.trans h4).trans htrust.symm
      · rw [htruststore]
        exact h5
  · intro http hh
    rcases hhttp http hh with hh | ⟨m, hm, hbuilt, hsec⟩
    · obtain ⟨m, hbuilt, hsec⟩ := h.http http hh
      exact ⟨m, List.mem_append_left _ hbuilt, hsec⟩
    · refine ⟨m, List.mem_append_right _ (List.mem_map.2 ⟨http, hbuilt, ?_⟩), hsec.symm⟩
      rw [hm]

theorem Provenance.answer {a : Adapter} (n : Nat) (result : Except ConnectionError (String × Client))
    (h : a.Provenance) : (a.answer n result).Provenance := by
  unfold Adapter.answer
  cases hn : a.waiting[n]? with
  | none => exact h
  | some d =>
    have hd : d ∈ a.dials := h.waiting d (List.mem_of_getElem? hn)
    have waiting : ∀ d ∈ a.waiting.eraseIdx n, d ∈ a.dials :=
      fun d hd => h.waiting d (List.mem_of_mem_eraseIdx hd)
    cases result with
    | error e =>
      refine ⟨h.agreement, h.fitted, h.reached, h.attempt, waiting, fun p hp => ?_, h.layer, h.http⟩
      rcases List.mem_append.1 hp with hp | hp
      · exact h.undelivered p hp
      · cases List.mem_singleton.1 hp
        exact ⟨hd, nofun⟩
    | ok c =>
      refine ⟨h.agreement, h.fitted, h.reached, h.attempt, waiting, fun p hp => ?_, h.layer, h.http⟩
      rcases List.mem_append.1 hp with hp | hp
      · exact h.undelivered p hp
      · cases List.mem_singleton.1 hp
        refine ⟨hd, fun s hs => ?_⟩
        cases List.mem_singleton.1 hs
        exact ⟨rfl, rfl⟩

theorem Provenance.deliver {a : Adapter} (n : Nat) (h : a.Provenance) : (a.deliver n).Provenance := by
  rcases a.deliver_eq n with hn | ⟨d, result, hn, heq⟩
  · rw [hn]
    exact h
  · rw [heq]
    obtain ⟨hd, hs⟩ := h.undelivered _ (List.mem_of_getElem? hn)
    apply Provenance.drive
    · exact ⟨h.agreement, h.fitted, h.reached, h.attempt, h.waiting,
        fun p hp => h.undelivered p (List.mem_of_mem_eraseIdx hp), h.layer, h.http⟩
    · intro s hc
      exact ⟨d, hd, rfl, hs s hc⟩

theorem Provenance.take {a : Adapter} (turn : Turn) (h : a.Provenance) : (a.take turn).Provenance := by
  cases turn with
  | files fs =>
    exact ⟨h.agreement, h.fitted, h.reached, h.attempt, h.waiting, h.undelivered, h.layer, h.http⟩
  | http failure =>
    exact ⟨h.agreement, h.fitted, h.reached, h.attempt, h.waiting, h.undelivered, h.layer, h.http⟩
  | reconfigure m =>
    have h : Provenance { a with models := a.models ++ [m] } :=
      ⟨h.agreement, h.fitted, h.reached, h.attempt, h.waiting, h.undelivered, h.layer, h.http⟩
    exact h.drive fun _ hs => nomatch hs
  | close => exact h.drive fun _ hs => nomatch hs
  | answer n result => exact h.answer n result
  | deliver n => exact h.deliver n
  | notify generation n => exact h.drive fun _ hs => nomatch hs

/-! ## The latest model -/

/-- Unless everything has ended, the current model is the one that was handed over last. -/
def Latest (a : Adapter) : Prop :=
  a.life.state ≠ .stopped → a.life.model = a.models.getLast?

theorem Latest.drive {a : Adapter} {ev : LifecycleEvent}
    (h : a.life.state ≠ .stopped → a.life.asks ev = a.models.getLast?) : (a.drive ev).Latest := by
  intro on
  obtain ⟨on', hm⟩ := (Lifecycle.move_step a.surroundings a.life ev).model on
  exact hm.trans (h on')

theorem Latest.take {a : Adapter} (turn : Turn) (h : a.Latest) : (a.take turn).Latest := by
  cases turn with
  | files | http => exact h
  | reconfigure m => exact Latest.drive fun _ => List.getLast?_concat.symm
  | close => exact Latest.drive h
  | notify => exact Latest.drive h
  | answer n result =>
    obtain ⟨life, models, -⟩ := a.answer_frame n result
    show (a.answer n result).Latest
    unfold Latest
    rw [life, models]
    exact h
  | deliver n =>
    show (a.deliver n).Latest
    rcases a.deliver_eq n with hn | ⟨d, result, -, hn⟩
    · rw [hn]
      exact h
    · rw [hn]
      exact Latest.drive h

/-- The latest model wins, on the right layers. Whenever the adapter is active, after any run of models,
closings, answers of the broker, deliveries and reports: the current model is the last one that was
handed over, and it is active with something to poll; the services that run are, in order, those of
the model with a poll period; the held session was opened for the broker of the model, with the trust
that was loaded from its truststore; and every service polls through the HTTP layer of the lifecycle,
which was built for a model with the same security settings and with the trust of the session. -/
theorem latest_model_served (shutdownAwaited observed : Bool) (turns : List Turn)
    (active : ((fresh shutdownAwaited observed).run turns).life.state = .active) :
    let a := (fresh shutdownAwaited observed).run turns
    ∃ m layer http,
      a.models.getLast? = some m ∧ a.life.model = some m ∧ m.active = true ∧ m.isIdle = false ∧
      a.life.services.running.map (·.config) = m.services.filter (·.pollPeriodMs != 0) ∧
      a.life.layer = some layer ∧ layer.session.broker = m.broker ∧
      (∃ d ∈ a.dials, d.generation = layer.generation ∧ d.broker = m.broker ∧
        d.trust = layer.session.trust ∧ Trust.Context.ofModel d.files m = .ok layer.session.trust) ∧
      a.life.http = some http ∧ (∀ r ∈ a.life.services.running, r.context.http = http) ∧
      (∃ p, (some p, http) ∈ a.built ∧ p.security = m.security) ∧
      http.security = m.security ∧ http.trust = layer.session.trust := by
  intro a
  have h : a.Provenance :=
    run_induction (fun _ turn => Provenance.take turn) (fresh_provenance shutdownAwaited observed) turns
  have latest : a.Latest := run_induction (fun _ turn => Latest.take turn) (fun _ => rfl) turns
  obtain ⟨m, http, fits⟩ := h.fitted.fits active
  obtain ⟨m', layer, -, hm, hl, suits, -⟩ := h.agreement.active active
  rw [fits.asked] at hm
  cases hm
  simp only [BrokerLayer.serves, Bool.and_eq_true, beq_iff_eq] at suits
  obtain ⟨busy, something⟩ := h.fitted.busy (.inr active) m fits.asked
  obtain ⟨broker, trust, d, hd, hg, dialled, dtrust, loads⟩ := h.layer layer hl
  obtain ⟨p, built, security⟩ := h.http http fits.there
  refine ⟨m, layer, http, ?_, fits.asked, busy, something, fits.services, hl, broker.trans suits.1,
    ⟨d, hd, hg, dialled.trans suits.1, dtrust, ?_⟩, fits.there, fits.through,
    ⟨p, built, security.trans fits.security⟩, fits.security, fits.trust.trans trust.symm⟩
  · rw [← latest (by rw [active]; decide)]
    exact fits.asked
  · rw [← dtrust]
    exact loads m suits.2.symm

/-- Two models of different brokers, the second handed over while a session is opened for the first;
both sessions are opened, and the one that is no longer wanted is delivered first. -/
def replacement : List Turn :=
  let service : ServiceConfig :=
    (ServiceConfig.plain "weather" "localhost" 80 "root").addEndpoint
      { name := "now", url := "/now", topicPath := "now" }
  [.reconfigure { active := true, broker := .at "first" 8080, services := [service] },
    .reconfigure { active := true, broker := .at "second" 8080, services := [service] },
    .answer 0 (.ok ("s-1", .standIn)), .answer 0 (.ok ("s-2", .standIn)), .deliver 0, .deliver 0]

theorem latest_model_served_replacement :
    ((fresh true true).run replacement).life.state = .active ∧
      ∃ m layer, ((fresh true true).run replacement).models.getLast? = some m ∧
        ((fresh true true).run replacement).life.layer = some layer ∧ layer.session.broker = m.broker := by
  have active : ((fresh true true).run replacement).life.state = .active := by decide
  obtain ⟨m, layer, _, h1, -, -, -, -, h2, h3, -⟩ := latest_model_served true true replacement active
  exact ⟨active, m, layer, h1, h2, h3⟩

end Adapter

end TopicRelay.Control
