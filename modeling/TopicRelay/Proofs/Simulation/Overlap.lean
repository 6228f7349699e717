/-
Bring-up beside what is under way. The first request of an endpoint is sent whatever requests to the
endpoint have not ended: each pass over a service whose session has not been stopped sends one more,
and passes begin with every activation and every reconfiguration. So the requests under way to one
endpoint of one service are not limited, although each session keeps to one at a time.
-/
import TopicRelay.Proofs.Polling.Schedule
import TopicRelay.Simulation.Command
import TopicRelay.Simulation.Fixtures

namespace TopicRelay.Simulation

open TopicRelay.Config TopicRelay.Content TopicRelay.Control TopicRelay.Polling

/-! ## Requests in a history -/

/-- Whether a request goes to an endpoint of a service. -/
def Request.isTo (service endpoint : String) (r : Request) : Bool :=
  r.service == service && r.endpoint == endpoint

/-- How many requests have been sent to an endpoint of a service. -/
def History.sent (service endpoint : String) (h : History) : Nat :=
  h.countP fun p =>
    match p.2 with
    | .requested r => r.isTo service endpoint
    | _ => false

/-- How many requests to an endpoint of a service have ended, with an answer or without one. -/
def History.ended (service endpoint : String) (h : History) : Nat :=
  h.countP fun p =>
    match p.2 with
    | .answered r | .abandoned r => r.isTo service endpoint
    | _ => false

/-! ## Scripts -/

theorem lookup_map_update {β : Type} (f : β → β) (name other : String) (l : List (String × β)) :
    (l.map fun p => if p.1 == name then (p.1, f p.2) else p).lookup other =
      if other = name then (l.lookup name).map f else l.lookup other := by
  induction l with
  | nil => simp
  | cons p rest ih =>
    obtain ⟨k, b⟩ := p
    by_cases hk : k = name
    · subst hk
      by_cases ho : other = k
      · subst ho
        simp
      · simpa [List.lookup_cons, beq_false_of_ne ho, ho] using ih
    · by_cases ho : other = name
      · subst ho
        simpa [List.lookup_cons, hk, beq_false_of_ne (Ne.symm hk)] using ih
      · simp only [List.map_cons, beq_false_of_ne hk, Bool.false_eq_true, if_false, List.lookup_cons, ih,
          if_neg ho]

/-- The script of an endpoint after that of some endpoint has been changed. -/
theorem script_update (f : Script → Script) (name other : String) (es : Endpoints) :
    (es.update name f).script other = if other = name then f (es.script name) else es.script other := by
  obtain ⟨scripts⟩ := es
  unfold Endpoints.update Endpoints.script
  split
  · next there =>
    dsimp only at there ⊢
    rw [lookup_map_update]
    split
    · cases found : scripts.lookup name with
      | some script => rfl
      | none =>
        obtain ⟨p, hp, hname⟩ := List.any_eq_true.1 there
        have := List.lookup_eq_none_iff.1 found p hp
        simp_all
    · rfl
  · next absent =>
    dsimp only at absent ⊢
    have missing : scripts.lookup name = none := by
      rw [List.lookup_eq_none_iff]
      intro p hp
      have hne : p.1 ≠ name := fun heq => absent (List.any_eq_true.2 ⟨p, hp, by simpa using heq⟩)
      simpa using Ne.symm hne
    rw [List.lookup_append, List.lookup_cons]
    by_cases ho : other = name
    · subst ho
      simp [missing]
    · simp [beq_false_of_ne ho, ho]

theorem delay_update {f : Script → Script} (hf : ∀ s, (f s).delay = s.delay) (name other : String)
    (es : Endpoints) : ((es.update name f).script other).delay = (es.script other).delay := by
  rw [script_update]
  split
  · next heq => rw [hf, heq]
  · rfl

theorem delay_request (name other : String) (es : Endpoints) :
    ((es.request name).1.script other).delay = (es.script other).delay :=
  delay_update (f := fun s => { s with
    queued := s.queued.tail
    inFlight := s.inFlight + 1
    maxInFlight := max s.maxInFlight (s.inFlight + 1) }) (fun _ => rfl) name other es

namespace World

variable {service endpoint : String} {n m : Nat} {w w₁ w₂ : World} {p : Pass}

/-- Of all that matters to a first request, only this has changed: so many requests to an endpoint
have been sent. -/
structure Sends (service endpoint : String) (n : Nat) (w w' : World) : Prop where
  sent : w'.history.sent service endpoint = w.history.sent service endpoint + n
  ended : w'.history.ended service endpoint = w.history.ended service endpoint
  stopped : ∀ key, w'.isStopped key = w.isStopped key
  delay : ∀ name, (w'.endpoints.script name).delay = (w.endpoints.script name).delay

theorem Sends.refl (service endpoint : String) (w : World) : Sends service endpoint 0 w w :=
  ⟨rfl, rfl, fun _ => rfl, fun _ => rfl⟩

theorem Sends.trans (h : Sends service endpoint n w w₁) (h' : Sends service endpoint m w₁ w₂) :
    Sends service endpoint (n + m) w w₂ where
  sent := by rw [h'.sent, h.sent, Nat.add_assoc]
  ended := by rw [h'.ended, h.ended]
  stopped := fun key => by rw [h'.stopped, h.stopped]
  delay := fun name => by rw [h'.delay, h.delay]

theorem countP_cons_eq_add_toNat {α : Type} (f : α → Bool) (a : α) (as : List α) :
    (a :: as).countP f = as.countP f + (f a).toNat := by
  rw [List.countP_cons]
  cases f a <;> rfl

theorem sends_say (service endpoint : String) (e : Log.Entry) (w : World) :
    Sends service endpoint 0 w (w.say e) :=
  ⟨rfl, rfl, fun _ => rfl, fun _ => rfl⟩

theorem sends_request (p : Pass) (e : EndpointConfig) (service endpoint : String) (w : World) :
    Sends service endpoint ((bringUpRequest p e).isTo service endpoint).toNat w
      { w.record (.requested (bringUpRequest p e)) with
        endpoints := (w.endpoints.request e.name).1 } where
  sent := by
    simp only [History.sent, record, countP_cons_eq_add_toNat]
  ended := by simp [History.ended, record]
  stopped := fun _ => rfl
  delay := fun name => delay_request e.name name w.endpoints

/-! ## One endpoint -/

/-- A bring-up begins with a request, whatever is under way. -/
theorem sends_beginBringUp {e : EndpointConfig} (live : w.isStopped p.session = false)
    (slow : (w.endpoints.script e.name).delay ≠ 0) (service endpoint : String) :
    Sends service endpoint ((bringUpRequest p e).isTo service endpoint).toNat w
      (w.beginBringUp p e).1 := by
  have said := sends_say service endpoint (bringUpStarted p.service e) w
  -- whether the session has been stopped is all that is looked at
  unfold beginBringUp
  rw [if_neg (by simp [said.stopped, live])]
  dsimp only
  rw [if_neg (by simpa [Endpoints.request, said.delay] using slow)]
  simpa using said.trans (sends_request p e service endpoint _)

/-! ## One pass -/

theorem sends_turnParts (service endpoint : String) : ∀ (es : List EndpointConfig) (w : World),
    w.isStopped p.session = false → (∀ e ∈ es, (w.endpoints.script e.name).delay ≠ 0) →
    Sends service endpoint
      (es.countP fun e => (bringUpRequest p e).isTo service endpoint) w
      (w.turnParts p (es.map fun e => (e, .pending))).1
  | [], w, _, _ => Sends.refl service endpoint w
  | e :: rest, w, live, slow => by
    have first := sends_beginBringUp live (slow e (List.mem_cons_self ..)) service endpoint
    have others := sends_turnParts service endpoint rest (w.beginBringUp p e).1
      (by rw [first.stopped, live])
      (fun x hx => by rw [first.delay]; exact slow x (List.mem_cons_of_mem e hx))
    rw [countP_cons_eq_add_toNat, Nat.add_comm]
    exact first.trans others

theorem isStopped_setSession {key : SessionKey} {m : Member} {s : Polling.Session Handler}
    (there : w.member? key = some m) (hs : s.stopped = m.session.stopped) (other : SessionKey) :
    (w.setSession key s).isStopped other = w.isStopped other := by
  have hfind : (w.setSession key s).member? other =
      (w.member? other).map fun m => if m.key == key then { m with session := s } else m := by
    unfold World.member? World.setSession World.mapMember
    rw [List.find?_map]
    congr 2
    funext m
    simp only [Function.comp]
    split <;> rfl
  unfold World.isStopped
  rw [hfind]
  cases hother : w.member? other with
  | none => rfl
  | some x =>
    simp only [Option.map_some]
    split
    · next hkey =>
      have hx : x.key = other := by simpa using List.find?_some hother
      obtain rfl : other = key := by rw [← hx]; simpa using hkey
      rw [there] at hother
      cases hother
      exact hs
    · rfl

theorem sends_performSession (key : SessionKey) (service endpoint : String) (w : World)
    (e : SessionEffect) : Sends service endpoint 0 w (w.performSession key e) := by
  cases e with
  | log e => exact sends_say service endpoint e w
  | spawn | cancel => exact ⟨rfl, rfl, fun _ => rfl, fun _ => rfl⟩

theorem sends_performSessions (key : SessionKey) (service endpoint : String) :
    ∀ (effects : List SessionEffect) (w : World),
      Sends service endpoint 0 w (effects.foldl (performSession key) w)
  | [], w => Sends.refl service endpoint w
  | e :: rest, w =>
    (sends_performSession key service endpoint w e).trans
      (sends_performSessions key service endpoint rest _)

theorem sends_startSession {key : SessionKey} (live : w.isStopped key = false)
    (service endpoint : String) :
    Sends service endpoint 0 w (w.startSession key).1 ∧ (w.startSession key).2 = true := by
  have live' := live
  unfold World.isStopped at live'
  unfold World.startSession
  cases there : w.member? key with
  | none => rw [there] at live'; cases live'
  | some m =>
    rw [there] at live'
    have hstart : (m.session.start w.now).1.stopped = m.session.stopped ∧
        (m.session.start w.now).2.1 = true := by
      simp only at live'
      simp [Session.start, Session.scheduleAll, live']
    have put : Sends service endpoint 0 w (w.setSession key (m.session.start w.now).1) :=
      ⟨rfl, rfl, isStopped_setSession there hstart.1, fun _ => rfl⟩
    exact ⟨put.trans (sends_performSessions key service endpoint _ _), hstart.2⟩

/-- The first turn of a pass over a service sends a request to each endpoint, whatever is under
way. -/
theorem sends_turnPass {s : ServiceConfig} {key : SessionKey} {c : Broker.Client}
    (live : w.isStopped key = false)
    (slow : ∀ e ∈ s.endpoints, (w.endpoints.script e.name).delay ≠ 0) (endpoint : String) :
    Sends s.name endpoint (s.endpoints.countP fun e => e.name == endpoint) w
      (w.turnPass (.ofService s key c)).1 := by
  obtain ⟨started, running⟩ := sends_startSession live s.name endpoint
  have asked := sends_turnParts (p := .ofService s key c) s.name endpoint s.endpoints
    (w.startSession key).1
    (by rw [Pass.ofService, started.stopped, live])
    (fun e he => by rw [started.delay]; exact slow e he)
  have both := started.trans asked
  simp only [bringUpRequest, Request.isTo, Pass.ofService, beq_self_eq_true, Bool.true_and,
    Nat.zero_add] at both
  unfold turnPass
  simp only [Pass.ofService, Bool.not_false, Bool.and_self, if_true, running]
  split
  · exact both.trans (sends_say s.name endpoint _ _)
  · exact both

/-! ## Passes upon passes -/

/-- The first turns of passes over a service for sessions of some keys, one after the other. -/
def beginPasses (s : ServiceConfig) (holders : List (SessionKey × Broker.Client)) (w : World) :
    World :=
  holders.foldl (fun w h => (w.turnPass (.ofService s h.1 h.2)).1) w

theorem sends_beginPasses {s : ServiceConfig} (endpoint : String) :
    ∀ (holders : List (SessionKey × Broker.Client)) (w : World),
      (∀ h ∈ holders, w.isStopped h.1 = false) →
      (∀ e ∈ s.endpoints, (w.endpoints.script e.name).delay ≠ 0) →
      Sends s.name endpoint (holders.length * s.endpoints.countP fun e => e.name == endpoint) w
        (w.beginPasses s holders)
  | [], w, _, _ => by
    rw [List.length_nil, Nat.zero_mul]
    exact Sends.refl s.name endpoint w
  | h :: rest, w, live, slow => by
    have first := sends_turnPass (c := h.2) (live h (List.mem_cons_self ..)) slow endpoint
    have others := sends_beginPasses endpoint rest (w.turnPass (.ofService s h.1 h.2)).1
      (fun x hx => by rw [first.stopped]; exact live x (List.mem_cons_of_mem h hx))
      (fun e he => by rw [first.delay]; exact slow e he)
    rw [List.length_cons, Nat.succ_mul, Nat.add_comm]
    exact first.trans others

/-- Every pass over a service adds a request under way to each of its endpoints, as long as these
take their time and the sessions have not been stopped: nothing makes a first request wait for the
requests of earlier passes, or ends them. -/
theorem requests_pile_up {s : ServiceConfig} {e : EndpointConfig}
    (distinct : (s.endpoints.map fun e => e.name).Nodup) (he : e ∈ s.endpoints)
    (holders : List (SessionKey × Broker.Client)) (w : World)
    (live : ∀ h ∈ holders, w.isStopped h.1 = false)
    (slow : ∀ e ∈ s.endpoints, (w.endpoints.script e.name).delay ≠ 0) :
    (w.beginPasses s holders).history.sent s.name e.name =
        w.history.sent s.name e.name + holders.length ∧
      (w.beginPasses s holders).history.ended s.name e.name = w.history.ended s.name e.name := by
  have once : s.endpoints.countP (fun x => x.name == e.name) = 1 := by
    rw [List.countP_eq_length_filter, filter_of_nodup_map distinct he, List.length_singleton]
  have sends := sends_beginPasses e.name holders w live slow
  rw [once, Nat.mul_one] at sends
  exact ⟨sends.sent, sends.ended⟩

/-! ## Runs -/

/-- Takes commands one after the other and lets everything run that each brings about. -/
def follow (cs : List Command) (w : World) : World :=
  cs.foldl (fun w c => (w.obey c true).1) w

/-- The only endpoint of `slowService`. -/
def slowEndpoint : EndpointConfig :=
  Fixtures.endpoint "quotes" .json

/-- A service with one endpoint. -/
def slowService : ServiceConfig :=
  Fixtures.service "rates" 1000 [slowEndpoint]

/-- The service runs, and its endpoint has 500 ms to answer its first request. -/
def slowWorld : World :=
  (create true false false).follow
    [.script "quotes" [] (some (.ok { status := 200 })) (some 500),
      .reconfigureServices (Fixtures.model [slowService])]

/-- Two more passes for the session that runs. -/
theorem requests_pile_up_slowWorld :
    let holders := List.replicate 2 (SessionKey.mk .manager 0, Broker.Client.standIn)
    (slowService.endpoints.map fun e => e.name).Nodup ∧ slowEndpoint ∈ slowService.endpoints ∧
      (∀ h ∈ holders, slowWorld.isStopped h.1 = false) ∧
      (∀ e ∈ slowService.endpoints, (slowWorld.endpoints.script e.name).delay ≠ 0) ∧
      (slowWorld.beginPasses slowService holders).history.sent "rates" "quotes" =
        slowWorld.history.sent "rates" "quotes" + 2 ∧
      (slowWorld.beginPasses slowService holders).history.ended "rates" "quotes" =
        slowWorld.history.ended "rates" "quotes" := by
  intro holders
  have distinct : (slowService.endpoints.map fun e => e.name).Nodup := by decide +kernel
  have there : slowEndpoint ∈ slowService.endpoints := by decide +kernel
  have live : ∀ h ∈ holders, slowWorld.isStopped h.1 = false := by decide +kernel
  have slow : ∀ e ∈ slowService.endpoints, (slowWorld.endpoints.script e.name).delay ≠ 0 := by
    decide +kernel
  exact ⟨distinct, there, live, slow, requests_pile_up distinct there holders slowWorld live slow⟩

/-- A reconfiguration while the first request is under way: the new session sends its own, and two
are under way at once. -/
theorem two_requests_under_way :
    (slowWorld.follow [.advance 100, .reconfigureServices (Fixtures.model [slowService])]).history.sent
        "rates" "quotes" = 2 ∧
      (slowWorld.follow [.advance 100, .reconfigureServices (Fixtures.model [slowService])]).history.ended
        "rates" "quotes" = 0 := by
  decide +kernel

end World
end TopicRelay.Simulation
