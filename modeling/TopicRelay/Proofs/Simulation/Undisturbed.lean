/-
Sessions around an endpoint that is polled. They are started and stopped, endpoints are added to them,
their cycles have their turns and bring-ups go on. Whatever is done that is not a turn of the cycle of
the endpoint leaves the world fine, or ends its session.
-/
import TopicRelay.Proofs.Simulation.Followed

namespace TopicRelay.Simulation

open TopicRelay.Broker TopicRelay.Config TopicRelay.Content TopicRelay.Control
open TopicRelay.Polling TopicRelay.Publication TopicRelay.Time

variable {x : Scope} {w w' w₁ w₂ : World} {f : Focus} {key : SessionKey} {m : Member}
  {s s' : Polling.Session Handler} {t : Time.Task Work} {p : Pause}

/-! ## Changes of sessions -/

/-- A session goes on, or ends, and spares the cycle of an endpoint as long as it lasts. -/
structure Spares (name : String) (s s' : Polling.Session Handler) : Prop where
  service : s'.service = s.service
  ended : s.stopped = true → s'.stopped = true
  names : ∀ c' ∈ s'.cycles, c'.endpoint.name = name → ∃ c ∈ s.cycles, c.endpoint.name = name
  cycles : s'.stopped = false → ∀ c ∈ s.cycles, c.endpoint.name = name → c ∈ s'.cycles

theorem Spares.refl (name : String) (s : Polling.Session Handler) : Spares name s s :=
  ⟨rfl, id, fun c hc same => ⟨c, hc, same⟩, fun _ _ hc _ => hc⟩

theorem spares_stop (name : String) (s : Polling.Session Handler) : Spares name s s.stop.1 := by
  refine ⟨rfl, fun _ => rfl, fun c' hc' same => ?_, nofun⟩
  obtain ⟨c, hc, rfl⟩ := List.mem_map.1 hc'
  exact ⟨c, hc, same⟩

/-- A cycle of another endpoint enters a stage. -/
theorem spares_setStage {c : Cycle} {name : String} (orderly : s.Orderly) (hc : c ∈ s.cycles)
    (foreign : s.stopped = false → c.endpoint.name ≠ name) (stage : Stage) :
    Spares name s (s.setStage c.epoch stage) := by
  refine ⟨rfl, id, fun c' hc' same => ?_, fun live c' hc' same => ?_⟩
  · obtain ⟨c₀, hc₀, rfl | ⟨-, rfl⟩⟩ := Polling.Session.mem_setStage hc'
    · exact ⟨c', hc₀, same⟩
    · exact ⟨c₀, hc₀, same⟩
  · refine List.mem_map.2 ⟨c', hc', if_neg fun heq => foreign live ?_⟩
    obtain rfl := List.inj_on_of_nodup_map orderly.cycleEpochs hc' hc (by simpa using heq)
    exact same

/-- A cycle of a session that has been stopped ends. -/
theorem spares_drop (name : String) (ended : s.stopped = true) (epoch : Nat) :
    Spares name s { s with cycles := s.cycles.filter fun c => c.epoch != epoch } :=
  ⟨rfl, id, fun c hc same => ⟨c, (List.mem_filter.1 hc).1, same⟩, fun live => by
    rw [ended] at live
    cases live⟩

theorem Sane.mapMember (h : Sane x w) (key : SessionKey) (change : Member → Member)
    (hkey : ∀ m, (change m).key = m.key)
    (orderly : ∀ m, w.member? key = some m → (change m).session.Orderly) :
    Sane x (w.mapMember key change) := by
  have keys : (w.mapMember key change).members.map (·.key) = w.members.map (·.key) := by
    show (w.members.map _).map _ = _
    rw [List.map_map]
    refine List.map_congr_left fun m _ => ?_
    simp only [Function.comp]
    split
    · exact hkey m
    · rfl
  refine ⟨?_, ?_, ?_, h.manages, h.governs, h.numbered, h.running⟩
  · rw [keys]
    exact h.keys
  · rw [keys]
    exact h.counted
  · intro m' hm'
    obtain ⟨m, hm, rfl⟩ := List.mem_map.1 hm'
    split
    · next own =>
      obtain rfl : m.key = key := by simpa using own
      exact orderly m (h.member?_of_mem hm)
    · exact h.orderly m hm

/-- A session is changed in a way that spares the endpoint that is followed. -/
theorem Fine.mapMember (h : Fine x w) (key : SessionKey) (change : Member → Member)
    (hkey : ∀ m, (change m).key = m.key)
    (orderly : ∀ m, w.member? key = some m → (change m).session.Orderly)
    (spares : ∀ f ∈ x.focus, f.key = key → ∀ m, w.member? key = some m →
      Spares f.name m.session (change m).session) :
    Fine x (w.mapMember key change) := by
  refine ⟨h.sane.mapMember key change hkey orderly, fun f hf => ?_⟩
  have found := World.member?_mapMember key change hkey w f.key
  by_cases own : f.key = key
  · simp only [if_pos own] at found
    have spares : ∀ m, w.member? f.key = some m → Spares f.name m.session (change m).session :=
      fun m hm => spares f hf own m (own ▸ hm)
    cases h.follows f hf with
    | latent idle clock polls unpolled =>
      refine .latent idle clock polls fun m' hm' c' hc' same => ?_
      obtain ⟨m, hm, rfl⟩ := Option.map_eq_some_iff.1 (found ▸ hm')
      obtain ⟨c, hc, heq⟩ := (spares m hm).names c' hc' same
      exact unpolled m hm c hc heq
    | @kept m c t p keeps =>
      have spared := spares m keeps.member
      rw [keeps.member] at found
      cases live : (change m).session.stopped with
      | true =>
        refine .ended (h.sane.gone keeps.member _ id fun m' hm' => ?_)
        rw [found] at hm'
        cases hm'
        exact live
      | false =>
        refine .kept { keeps with
          member := found
          live := live
          cycle := spared.cycles live c keeps.cycle keeps.name
          plays := ?_ }
        unfold Polling.Session.period
        rw [spared.service]
        exact keeps.plays
    | ended gone =>
      refine .ended ⟨gone.counted, gone.absent, fun m' hm' => ?_⟩
      obtain ⟨m, hm, rfl⟩ := Option.map_eq_some_iff.1 (found ▸ hm')
      exact (spares m hm).ended (gone.ended m hm)
  · refine (h.follows f hf).carry ?_ rfl rfl id ⟨[], rfl⟩
    rw [found]
    simp [own]

theorem Fine.setSession (h : Fine x w) (there : w.member? key = some m) (orderly : s.Orderly)
    (spares : ∀ f ∈ x.focus, f.key = key → Spares f.name m.session s) : Fine x (w.setSession key s) := by
  refine h.mapMember key _ (fun _ => rfl) (fun _ _ => orderly) fun f hf own m' hm' => ?_
  rw [there] at hm'
  cases hm'
  exact spares f hf own

/-! ## The end of a session -/

/-- Tasks are changed, but not that of the endpoint that is followed. -/
theorem Fine.withAgenda (h : Fine x w) {a : Agenda Work} (numbered : a.Numbered)
    (later : w.agenda.nextId ≤ a.nextId)
    (stands : ∀ f ∈ x.focus, ∀ m c t p, Keeps f x m c t p w → a.Stands t w.now p.due) :
    Fine x { w with agenda := a } := by
  refine ⟨{ h.sane with
    numbered := numbered
    running := fun id hid => Nat.lt_of_lt_of_le (h.sane.running id hid) later }, fun f hf => ?_⟩
  cases h.follows f hf with
  | latent idle clock polls unpolled => exact .latent idle clock polls unpolled
  | @kept m c t p keeps => exact .kept { keeps with stands := stands f hf m c t p keeps }
  | ended gone => exact .ended ⟨gone.counted, gone.absent, gone.ended⟩

/-- Other tasks are aborted. -/
theorem Fine.abortWhere (h : Fine x w) {which : Work → Bool}
    (others : ∀ f ∈ x.focus, ∀ m c t p, Keeps f x m c t p w → which t.work = false) :
    Fine x { w with agenda := w.agenda.abortWhere which } :=
  h.withAgenda (h.sane.numbered.abortWhere which) (Nat.le_of_eq (Agenda.nextId_abortWhere _ _).symm)
    fun f hf m c t p keeps => keeps.stands.abortWhere h.sane.numbered (others f hf m c t p keeps)

/-- What else a session brings about once it has been stopped. -/
theorem Fine.performStopped (key : SessionKey) : ∀ (effects : List SessionEffect) {w : World}, Fine x w →
    (∀ m, w.member? key = some m → m.session.stopped = true) →
    Fine x (effects.foldl (World.performSession key) w)
  | [], _, h, _ => h
  | .log e :: rest, w, h, ended => Fine.performStopped key rest (h.quiet (quiet_say e w)) ended
  | .spawn epoch _ :: rest, w, h, ended =>
    Fine.performStopped key rest (h.quiet (quiet_spawn (.cycle key epoch) w)) ended
  | .cancel epoch :: rest, w, h, ended => by
    refine Fine.performStopped key rest (h.abortWhere fun f _ m c t p keeps => ?_) ended
    rw [keeps.work]
    have other : f.key ≠ key := by
      rintro rfl
      have := ended m keeps.member
      rw [keeps.live] at this
      cases this
    simp [World.isCycle, other]

theorem Fine.stopSession (h : Fine x w) (key : SessionKey) : Fine x (w.stopSession key) := by
  unfold World.stopSession
  split
  · exact h
  · next m there =>
    have orderly := h.sane.orderly m (mem_of_member? there)
    refine Fine.performStopped key m.session.stop.2
      (h.setSession there orderly.stop fun f _ _ => spares_stop f.name m.session) fun m' hm' => ?_
    rw [World.member?_setSession, there] at hm'
    simp only [Option.map_some, if_true, Option.some.injEq] at hm'
    subst hm'
    rfl

theorem Fine.pollEvent (h : Fine x w) (key : SessionKey) (ev : PollEvent) :
    Fine x (w.pollEvent key ev) := by
  have counted : ∀ b : Bool, Fine x (if b then { w with metrics := w.metrics.count ev } else w) := by
    intro b
    split
    · exact h.quiet ((Quiet.refl w).withMetrics _)
    · exact h
  unfold World.pollEvent
  split
  · exact h
  · next m there =>
    dsimp only
    split
    · refine ((counted m.counted).mapMember key (fun m => { m with stopOn := none }) (fun _ => rfl)
        ?_ ?_).stopSession key
      · exact fun m' hm' => (counted m.counted).sane.orderly m' (mem_of_member? hm')
      · exact fun f _ _ m' _ => Spares.refl f.name m'.session
    · exact counted m.counted

/-! ## The begin of cycles -/

/-- The work that a session begins. -/
def begun (key : SessionKey) (effects : List SessionEffect) : List Work :=
  effects.filterMap fun
    | .spawn epoch _ => some (.cycle key epoch)
    | .log _ | .cancel _ => none

theorem performSession_begun (key : SessionKey) : ∀ (effects : List SessionEffect) (w : World),
    (∀ epoch, .cancel epoch ∉ effects) →
    Quiet w (effects.foldl (World.performSession key) w) ∧
      (effects.foldl (World.performSession key) w).agenda = w.agenda.spawnAll (begun key effects)
  | [], w, _ => ⟨.refl w, rfl⟩
  | .log e :: rest, w, lasting => by
    obtain ⟨quiet, agenda⟩ := performSession_begun key rest (w.say e)
      fun epoch hc => lasting epoch (List.mem_cons_of_mem _ hc)
    exact ⟨(quiet_say e w).trans quiet, agenda⟩
  | .spawn epoch _ :: rest, w, lasting => by
    obtain ⟨quiet, agenda⟩ := performSession_begun key rest
      { w with agenda := w.agenda.spawn (.cycle key epoch) }
      fun epoch hc => lasting epoch (List.mem_cons_of_mem _ hc)
    exact ⟨(quiet_spawn _ w).trans quiet, agenda⟩
  | .cancel epoch :: _, _, lasting => absurd List.mem_cons_self (lasting epoch)

/-- The task of a cycle that begins is none of those that are there. -/
theorem Follows.begins {c : Cycle} (clock : w.now = f.origin) (polls : f.polls w = f.before)
    (running : ∀ id ∈ x.running, id < w.agenda.nextId) {works : List Work} (held : w'.member? f.key = some m)
    (live : m.session.stopped = false) (hc : c ∈ m.session.cycles) (name : c.endpoint.name = f.name)
    (fresh : c.stage = .resting w.now) (task : .cycle f.key c.epoch ∈ works)
    (quiet : Quiet w₁ w') (now : w₁.now = w.now) (history : w₁.history = w.history)
    (agenda : w'.agenda = w.agenda.spawnAll works) : Follows f x w' := by
  obtain ⟨t, work, active, unused, stands⟩ := Agenda.stands_spawnAll task w.now w.agenda
  have started : Scored f.origin m.session.period (fun _ => 0) 0 _ _ := .rests
  rw [beginning_zero, score_zero] at started
  have seen : f.polls w' = f.before := by
    rw [← polls]
    exact (quiet.polls f.key f.name).trans (by rw [history]; rfl)
  have still : w'.now = w.now := quiet.now.trans now
  refine .kept (c := c) (t := t) (p := .resting f.origin) {
    member := held
    live
    cycle := hc
    name
    pause := by rw [fresh, ← clock]; rfl
    clock := Nat.le_of_eq (still.trans clock)
    plays := ⟨_, 0, [], by rw [seen, List.append_nil], started⟩
    work
    active
    apart := fun runs => Nat.not_lt.2 unused (running t.id runs)
    stands := by
      rw [still, agenda, ← clock]
      exact stands }

/-- Cycles begin in a session, each with a task of its own. The endpoint that is followed may be among
those that they poll. -/
theorem Fine.enroll (h : Fine x w) (there : w.member? key = some m) (live : m.session.stopped = false)
    (new : List Cycle) (effects : List SessionEffect) (orderly : s.Orderly)
    (service : s.service = m.session.service) (lasts : s.stopped = false)
    (cycles : s.cycles = m.session.cycles ++ new) (fresh : ∀ c ∈ new, c.stage = .resting w.now)
    (lasting : ∀ epoch, .cancel epoch ∉ effects)
    (tasks : ∀ c ∈ new, .cycle key c.epoch ∈ begun key effects) :
    Fine x (w.settleSession key s effects) := by
  obtain ⟨quiet, agenda⟩ := performSession_begun key effects (w.setSession key s) lasting
  change Quiet (w.setSession key s) (w.settleSession key s effects) at quiet
  change (w.settleSession key s effects).agenda = w.agenda.spawnAll (begun key effects) at agenda
  have sane : Sane x (w.settleSession key s effects) :=
    (h.sane.mapMember key (fun m => { m with session := s }) (fun _ => rfl)
      fun _ _ => orderly).aside quiet.toAside
  refine ⟨sane, fun f hf => ?_⟩
  have found := World.member?_settleSession key s effects w f.key
  have polls : f.polls (w.settleSession key s effects) = f.polls w := quiet.polls f.key f.name
  have now : (w.settleSession key s effects).now = w.now := quiet.now
  have counted : w.Counted f.key → (w.settleSession key s effects).Counted f.key := quiet.counted
  generalize w.settleSession key s effects = w' at quiet agenda sane found polls now counted
  rcases eq_or_ne f.key key with rfl | other
  · rw [there, Option.map_some, if_pos rfl] at found
    cases h.follows f hf with
    | latent idle clock seen unpolled =>
      -- the endpoint may be polled by one of the new cycles
      by_cases begins : ∃ c ∈ new, c.endpoint.name = f.name
      · obtain ⟨c, hc, name⟩ := begins
        have hc' : c ∈ s.cycles := by
          rw [cycles]
          exact List.mem_append_right _ hc
        exact .begins clock seen h.sane.running found lasts hc' name (fresh c hc) (tasks c hc) quiet
          rfl rfl agenda
      · refine .latent idle (now.trans clock) (polls.trans seen) fun m' hm' c hc same => ?_
        rw [found] at hm'
        cases hm'
        rw [cycles] at hc
        rcases List.mem_append.1 hc with hc | hc
        · exact unpolled m there c hc same
        · exact begins ⟨c, hc, same⟩
    | @kept m' c t p keeps =>
      have same := keeps.member
      rw [there] at same
      cases same
      refine .kept (c := c) (t := t) (p := p) { keeps with
        member := found
        live := lasts
        cycle := by rw [cycles]; exact List.mem_append_left _ keeps.cycle
        clock := now ▸ keeps.clock
        plays := ?_
        stands := by rw [agenda, now]; exact keeps.stands.spawnAll _ }
      unfold Polling.Session.period
      rw [polls, service]
      exact keeps.plays
    | ended gone => exact absurd live (gone.not_live there)
  · refine (h.follows f hf).carry ?_ polls now counted ⟨_, agenda⟩
    rw [found]
    simp [other]

/-- An operation that is ignored is only told of. -/
theorem Fine.ignored (h : Fine x w) (there : w.member? key = some m) (e : Log.Entry) :
    Fine x (w.settleSession key m.session [.log e]) :=
  (h.setSession there (h.sane.orderly m (mem_of_member? there))
    fun f _ _ => .refl f.name m.session).quiet (quiet_say e _)

theorem Fine.startSession (h : Fine x w) (key : SessionKey) : Fine x (w.startSession key).1 := by
  unfold World.startSession Polling.Session.start
  split
  · exact h
  · next m there =>
    have orderly := h.sane.orderly m (mem_of_member? there)
    rcases Bool.eq_false_or_eq_true m.session.stopped with ended | live
    · rw [if_pos ended]
      exact h.ignored there _
    · rw [if_neg (ne_true_of_eq_false live)]
      refine h.enroll there live (m.session.dormant.map (Polling.Session.newCycle w.now))
        m.session.startEffects (orderly.start live w.now) rfl live rfl ?_ ?_ ?_
      · intro c hc
        obtain ⟨slot, -, rfl⟩ := List.mem_map.1 hc
        rfl
      · intro epoch hc
        simp [Polling.Session.startEffects] at hc
      · intro c hc
        obtain ⟨slot, hslot, rfl⟩ := List.mem_map.1 hc
        refine List.mem_filterMap.2 ⟨.spawn slot.epoch slot.config, ?_, rfl⟩
        exact List.mem_cons_of_mem _ (List.mem_flatMap.2 ⟨slot, hslot, by simp⟩)

theorem Fine.addEndpoint (h : Fine x w) (key : SessionKey) (e : EndpointConfig) :
    Fine x (w.addEndpoint key e).1 := by
  unfold World.addEndpoint Polling.Session.add
  split
  · exact h
  · next m there =>
    dsimp only
    have orderly := h.sane.orderly m (mem_of_member? there)
    rcases Bool.eq_false_or_eq_true m.session.stopped with ended | live
    · rw [if_pos ended]
      exact h.ignored there _
    · rw [if_neg (ne_true_of_eq_false live)]
      split
      · exact h.ignored there _
      · next new =>
        split
        · exact h.setSession there orderly fun f _ _ => .refl f.name m.session
        · next handler _ =>
          have added := orderly.add live w.now e handler new
          by_cases running : m.session.running = true
          · refine h.enroll there live [Polling.Session.newCycle w.now (m.session.slotFor e handler)]
              (m.session.addEffects e) added rfl live (if_pos running) ?_ ?_ ?_
            · intro c hc
              obtain rfl := List.mem_singleton.1 hc
              rfl
            · intro epoch hc
              simp [Polling.Session.addEffects, running] at hc
            · intro c hc
              obtain rfl := List.mem_singleton.1 hc
              simp [begun, Polling.Session.addEffects, running, Polling.Session.newCycle,
                Polling.Session.slotFor]
          · have idle : m.session.addEffects e = [.log (m.session.addedEntry e)] := by
              simp [Polling.Session.addEffects, running]
            show Fine x (w.settleSession key _ (m.session.addEffects e))
            rw [idle]
            refine (h.setSession there added fun f _ _ => ?_).quiet (quiet_say _ _)
            simp only [if_neg running]
            exact ⟨rfl, id, fun c hc same => ⟨c, hc, same⟩, fun _ c hc _ => hc⟩

/-! ## Turns of other cycles -/

/-- What a step of the cycle of an epoch comes to. -/
inductive Goes (epoch : Nat) (s : Polling.Session Handler) :
    Polling.Session Handler × List (CycleEffect Handler) → Prop
  | idle : Goes epoch s (s, [])
  | advanced {c : Cycle} {stage : Stage} {effects : List (CycleEffect Handler)}
      (there : s.cycle? epoch = some c) (advance : s.Advance c stage effects) :
      Goes epoch s (s.setStage epoch stage, effects)

theorem goes_prepare (now epoch : Nat) (s : Polling.Session Handler) :
    Goes epoch s (s.prepare now epoch) := by
  unfold Polling.Session.prepare
  split
  · exact .idle
  · next c there =>
    split
    · next due rests =>
      split
      · exact .idle
      · split
        · next unwanted => exact .advanced there (.skipped rests unwanted)
        · next slot wanted => exact .advanced there (.prepared rests wanted)
    · exact .idle

theorem goes_send (due : Nat) (a : Answer) (epoch : Nat) (s : Polling.Session Handler) :
    Goes epoch s (s.send due a epoch) := by
  unfold Polling.Session.send
  split
  · exact .idle
  · next c there =>
    obtain rfl := Polling.Session.epoch_of_cycle? there
    split
    · next ready =>
      split
      · next cancelled => exact .advanced there (.refused ready cancelled)
      · next live => exact .advanced there (.sent ready (Bool.eq_false_iff.2 live))
    · exact .idle

theorem goes_receive (now epoch : Nat) (s : Polling.Session Handler) :
    Goes epoch s (s.receive now epoch) := by
  unfold Polling.Session.receive
  split
  · exact .idle
  · next c there =>
    obtain rfl := Polling.Session.epoch_of_cycle? there
    split
    · next due a asked =>
      split
      · exact .idle
      · exact .advanced there (.received asked)
    · exact .idle

theorem goes_conclude (now epoch : Nat) (s : Polling.Session Handler) :
    Goes epoch s (s.conclude now epoch) := by
  unfold Polling.Session.conclude
  split
  · exact .idle
  · next c there =>
    split
    · next a holds =>
      cases taken : s.receiver? c with
      | none => exact .advanced there (.discarded holds taken)
      | some h => exact .advanced there (.delivered holds taken)
    · exact .idle

/-- The cycle of an epoch polls no endpoint that is followed. -/
def Foreign (f : Focus) (key : SessionKey) (epoch : Nat) (w : World) : Prop :=
  ∀ m, w.member? key = some m → f.key = key →
    ∀ slot ∈ m.session.slots, slot.epoch = epoch → slot.config.name ≠ f.name

theorem Foreign.tended {epoch : Nat} (h : Foreign f key epoch w) (tended : Tended w w') :
    Foreign f key epoch w' := by
  intro m' there' own slot' hs' heq
  have held := tended key
  cases there : w.member? key with
  | none =>
    rw [there, there'] at held
    cases held
  | some m =>
    rw [there] at held
    obtain ⟨m₁, there₁, -, kept⟩ := held
    rw [there'] at there₁
    cases there₁
    obtain ⟨slot, hs, registration, -⟩ := kept.slots slot' hs'
    simp only [Slot.registration, Prod.mk.injEq] at registration
    rw [← registration.2]
    exact h m there own slot hs (registration.1.trans heq)

/-- The request of a cycle, or the answer to it, is seen by those who follow its endpoint. -/
theorem polls_of_other {c : Cycle} {h : Happening} (other : m.key ≠ f.key ∨ c.endpoint.name ≠ f.name)
    (about : h = .requested (World.pollRequest m c) ∨ h = .answered (World.pollRequest m c))
    (w : World) (endpoints : Endpoints) :
    f.polls { w.record h with endpoints } = f.polls w := by
  have silent : pollBeat? f.key f.name (w.now, h) = none := by
    have foreign : (World.pollRequest m c).isPoll f.key f.name = false := by
      simp only [Request.isPoll, World.pollRequest]
      rcases other with other | other <;> simp [other]
    rcases about with rfl | rfl <;> simp [pollBeat?, foreign]
  refine (polls_record h w f.key f.name).trans ?_
  rw [silent, Option.toList_none, List.append_nil]
  rfl

theorem Fine.polled {c : Cycle} {happening : Happening} (h : Fine x w)
    (about : happening = .requested (World.pollRequest m c) ∨
      happening = .answered (World.pollRequest m c))
    (others : ∀ f ∈ x.focus, Gone f.key x w ∨ m.key ≠ f.key ∨ c.endpoint.name ≠ f.name)
    (endpoints : Endpoints) : Fine x { w.record happening with endpoints } := by
  refine h.aside ⟨rfl, rfl, rfl, rfl, rfl, [], rfl⟩ fun f hf => ?_
  exact (others f hf).imp_right fun other => polls_of_other other about w endpoints

/-- A step of a cycle that polls another endpoint. -/
theorem Fine.moveCycle (h : Fine x w) {epoch : Nat} (foreign : ∀ f ∈ x.focus, Foreign f key epoch w)
    {step : Polling.Session Handler → Polling.Session Handler × List (CycleEffect Handler)}
    (goes : ∀ s, Goes epoch s (step s)) : Fine x (w.moveCycle key step) := by
  unfold World.moveCycle
  split
  · exact h
  · next m there =>
    have orderly := h.sane.orderly m (mem_of_member? there)
    obtain rfl := World.key_of_member? there
    have outcome := goes m.session
    generalize step m.session = out at outcome
    cases outcome with
    | idle => exact h.setSession there orderly fun f _ _ => .refl f.name m.session
    | @advanced c stage effects found advance =>
      obtain rfl := Polling.Session.epoch_of_cycle? found
      have hc := Polling.Session.mem_of_cycle? found
      have other : ∀ f ∈ x.focus, f.key = m.key → m.session.stopped = false →
          c.endpoint.name ≠ f.name := by
        intro f hf own live
        obtain ⟨-, slot, hs, config, epoch⟩ := orderly.slot_of_cycle live hc
        rw [← config]
        exact foreign f hf m there own slot hs epoch
      have put := h.setSession there (orderly.setStage c.epoch stage) fun f hf own =>
        spares_setStage orderly hc (other f hf own) stage
      -- the polls of a session that has been stopped are nobody's business
      have others : ∀ f ∈ x.focus,
          Gone f.key x (w.setSession m.key (m.session.setStage c.epoch stage)) ∨
            m.key ≠ f.key ∨ c.endpoint.name ≠ f.name := by
        intro f hf
        rcases eq_or_ne f.key m.key with own | foreign
        · rcases Bool.eq_false_or_eq_true m.session.stopped with ended | live
          · left
            rw [own]
            refine h.sane.gone there _ id fun m' hm' => ?_
            rw [World.member?_setSession, there] at hm'
            simp only [Option.map_some, if_true, Option.some.injEq] at hm'
            subst hm'
            exact ended
          · exact .inr (.inr (other f hf own live))
        · exact .inr (.inl foreign.symm)
      cases advance with
      | prepared => exact (put.quiet (quiet_say _ _)).pollEvent m.key _
      | skipped => exact put
      | sent => exact put.polled (.inl rfl) others _
      | refused => exact (put.quiet (quiet_say _ _)).pollEvent m.key _
      | received =>
        exact ((put.polled (.inr rfl) others _).quiet (quiet_say _ _)).pollEvent m.key _
      | delivered => exact put.quiet (quiet_handle m _ _ _)
      | discarded => exact put.quiet (quiet_say _ _)

theorem Fine.sendPoll (h : Fine x w) {epoch : Nat} (foreign : ∀ f ∈ x.focus, Foreign f key epoch w) :
    Fine x (w.sendPoll key epoch) := by
  unfold World.sendPoll
  split
  · exact h
  · exact h.moveCycle foreign fun s => goes_send _ _ epoch s

theorem tended_step (key : SessionKey) (epoch : Nat) (step : CycleStep) (w : World) :
    Tended w (w.moveCycle key fun s => step.take w.now epoch s) :=
  World.tended_moveCycle key w.now epoch step w

theorem tended_sendPoll (key : SessionKey) (epoch : Nat) (w : World) : Tended w (w.sendPoll key epoch) := by
  unfold World.sendPoll
  split
  · exact .refl w
  · exact World.tended_moveCycle key w.now epoch (.send _ _) w

theorem tended_runCycle (key : SessionKey) (epoch : Nat) (w : World) : Tended w (w.runCycle key epoch) :=
  (((tended_step key epoch .prepare w).trans (tended_sendPoll key epoch _)).trans
    (tended_step key epoch .receive _)).trans (tended_step key epoch .conclude _)

/-- A turn of a cycle that polls another endpoint. -/
theorem Fine.runCycle (h : Fine x w) {epoch : Nat} (foreign : ∀ f ∈ x.focus, Foreign f key epoch w) :
    Fine x (w.runCycle key epoch) := by
  unfold World.runCycle
  have prepared := h.moveCycle foreign fun s => goes_prepare w.now epoch s
  replace foreign := fun f hf => (foreign f hf).tended (tended_step key epoch .prepare w)
  change ∀ f ∈ x.focus, Foreign f key epoch (w.moveCycle key fun s => s.prepare w.now epoch) at foreign
  generalize w.moveCycle key (fun s => s.prepare w.now epoch) = w at prepared foreign ⊢
  have sent := prepared.sendPoll foreign
  replace foreign := fun f hf => (foreign f hf).tended (tended_sendPoll key epoch w)
  dsimp only
  generalize w.sendPoll key epoch = w at sent foreign ⊢
  have received := sent.moveCycle foreign fun s => goes_receive w.now epoch s
  replace foreign := fun f hf => (foreign f hf).tended (tended_step key epoch .receive w)
  exact received.moveCycle foreign fun s => goes_conclude _ epoch s

/-- Work is the cycle that polls the endpoint. -/
def Focus.Own (f : Focus) (work : Work) (w : World) : Prop :=
  ∃ m, w.member? f.key = some m ∧ m.session.stopped = false ∧
    ∃ c ∈ m.session.cycles, c.endpoint.name = f.name ∧ work = .cycle f.key c.epoch

theorem Keeps.own {c : Cycle} (h : Keeps f x m c t p w) : f.Own t.work w :=
  ⟨m, h.member, h.live, c, h.cycle, h.name, h.work⟩

theorem Sane.foreign (h : Sane x w) {epoch : Nat} (there : w.cycle? key epoch ≠ none)
    (other : ¬ f.Own (.cycle key epoch) w) : Foreign f key epoch w := by
  rintro m held rfl slot hs rfl same
  have orderly := h.orderly m (mem_of_member? held)
  rcases Bool.eq_false_or_eq_true m.session.stopped with ended | live
  · rw [(orderly.ended ended).2] at hs
    cases hs
  · obtain ⟨c, found⟩ := Option.ne_none_iff_exists'.1 there
    rw [World.cycle?, held, Option.bind_some] at found
    have hc := Polling.Session.mem_of_cycle? found
    have epoch := Polling.Session.epoch_of_cycle? found
    obtain ⟨-, slot', hs', config, epoch'⟩ := orderly.slot_of_cycle live hc
    obtain rfl : slot' = slot :=
      List.inj_on_of_nodup_map orderly.epochs hs' hs (epoch'.trans epoch)
    exact other ⟨m, held, live, c, hc, config ▸ same, by rw [epoch]⟩

theorem Fine.turnCycle (h : Fine x w) {epoch : Nat}
    (others : ∀ f ∈ x.focus, ¬ f.Own (.cycle key epoch) w) : Fine x (w.turnCycle key epoch).1 := by
  unfold World.turnCycle
  split
  · next reached =>
    refine h.runCycle fun f hf => h.sane.foreign (fun absent => ?_) (others f hf)
    simp [World.cycleDue?, absent] at reached
  · exact h

/-- Only cycles that have been cancelled are dropped, and only a session that has been stopped has any. -/
theorem dropCycle_cases (orderly : s.Orderly) (epoch : Nat) :
    s.dropCycle epoch = (s, []) ∨
      s.stopped = true ∧ ∃ effects, (effects = [] ∨ ∃ c, effects = [.abandon c]) ∧
        s.dropCycle epoch =
          ({ s with cycles := s.cycles.filter fun c => c.epoch != epoch }, effects) := by
  unfold Polling.Session.dropCycle
  split
  · exact .inl rfl
  · next c found =>
    split
    · next cancelled =>
      refine .inr ⟨?_, _, ?_, rfl⟩
      · rw [← orderly.cancelled c (Polling.Session.mem_of_cycle? found)]
        exact cancelled
      · split
        · exact .inr ⟨c, rfl⟩
        · exact .inl rfl
    · exact .inl rfl

theorem Fine.dropCycle (h : Fine x w) (key : SessionKey) (epoch : Nat) :
    Fine x (w.dropCycle key epoch) := by
  unfold World.dropCycle World.moveCycle
  split
  · exact h
  · next m there =>
    have orderly := h.sane.orderly m (mem_of_member? there)
    have moved := (m.session.step_dropCycle epoch).orderly orderly
    dsimp only
    rcases dropCycle_cases orderly epoch with idle | ⟨ended, effects, abandons, comes⟩
    · rw [idle]
      exact h.setSession there orderly fun f _ _ => .refl f.name m.session
    · rw [comes] at moved ⊢
      have dropped := h.setSession there moved fun f _ _ => spares_drop f.name ended epoch
      rcases abandons with rfl | ⟨c, rfl⟩
      · exact dropped
      · exact dropped.quiet ((quiet_record fun _ _ => rfl).withEndpoints _)

/-! ## Bring-ups -/

theorem Fine.trackResolved (h : Fine x w) (p : Pass) (r : Resolved) :
    Fine x (w.trackResolved p r).1 := by
  unfold World.trackResolved
  split
  · have added := h.addEndpoint p.session r.pinned
    dsimp only
    split <;> exact added
  · exact h

theorem Fine.takeCreation (h : Fine x w) (p : Pass) (e : EndpointConfig) (r : Resolved)
    (created : Except TopicCreationError TopicCreation) : Fine x (w.takeCreation p e r created).1 := by
  match created with
  | .error _ => exact h
  | .ok .created => exact h.trackResolved p r
  | .ok .alreadyExists => exact (h.quiet (quiet_say _ w)).trackResolved p r

theorem Fine.bindResolved (h : Fine x w) (p : Pass) (e : EndpointConfig) (r : Resolved) :
    Fine x (w.bindResolved p e r).1 := by
  unfold World.bindResolved
  split
  · exact h
  · exact (h.quiet (quiet_createTopic p.client p.session p.service r w)).takeCreation p e r _

theorem Fine.endBringUp (h : Fine x w) (p : Pass) (e : EndpointConfig)
    (result : Except InitialisationError PayloadKind) : Fine x (w.endBringUp p e result).1 :=
  h.quiet (quiet_endBringUp p e result w)

theorem Fine.concludeBringUp (h : Fine x w) (p : Pass) (e : EndpointConfig) (answer : Answer) :
    Fine x (w.concludeBringUp p e answer).1 := by
  have answered : Fine x { w.record (.answered (World.bringUpRequest p e)) with
      endpoints := w.endpoints.release e.name } :=
    h.quiet ((quiet_record fun key name => (pollBeat?_bringUp p e key name _).2).withEndpoints _)
  unfold World.concludeBringUp
  dsimp only
  split
  · exact answered.endBringUp p e _
  · next r _ => exact (answered.bindResolved p e r).endBringUp p e _

theorem Fine.turnBringUp (h : Fine x w) (p : Pass) (e : EndpointConfig) (progress : Progress) :
    Fine x (w.turnBringUp p e progress).1 := by
  cases progress with
  | pending =>
    have said := h.quiet (quiet_say (bringUpStarted p.service e) w)
    unfold World.turnBringUp World.beginBringUp
    dsimp only
    split
    · exact said.endBringUp p e _
    · have asked := said.quiet ((quiet_record fun key name =>
        (pollBeat?_bringUp p e key name _).1).withEndpoints
          ((w.say (bringUpStarted p.service e)).endpoints.request e.name).1)
      split
      · exact asked.concludeBringUp p e _
      · exact asked
  | requesting due answer =>
    unfold World.turnBringUp
    dsimp only
    split
    · exact h.concludeBringUp p e answer
    · exact h
  | done result => exact h

theorem Fine.turnParts (p : Pass) : ∀ (parts : List (EndpointConfig × Progress)) {w : World}, Fine x w →
    Fine x (w.turnParts p parts).1
  | [], _, h => h
  | (e, progress) :: rest, _, h => Fine.turnParts p rest (h.turnBringUp p e progress)

theorem Fine.turnPass (h : Fine x w) (p : Pass) : Fine x (w.turnPass p).1 := by
  have begun : Fine x
      (if p.wholeService && !p.begun then w.startSession p.session else (w, true)).1 := by
    split
    · exact h.startSession p.session
    · exact h
  unfold World.turnPass
  generalize (if p.wholeService && !p.begun then w.startSession p.session else (w, true)) = out at begun
  obtain ⟨w', live⟩ := out
  have turned := Fine.turnParts p p.parts begun
  dsimp only
  split
  · split
    · dsimp only
      split
      · exact turned.quiet (quiet_say _ _)
      · exact turned
    · exact turned
  · exact begun

end TopicRelay.Simulation
