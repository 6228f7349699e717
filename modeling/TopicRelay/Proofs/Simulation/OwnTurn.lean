/-
The turn of the cycle that polls an endpoint. Once the instant for which it waits has come, the cycle
sends its request, or takes the answer, hands the result over and rests for a period. Its polls go on with
the score, unless a poll event stops the session.
-/
import TopicRelay.Proofs.Simulation.Lockstep
import TopicRelay.Proofs.Simulation.Ongoing

namespace TopicRelay.Simulation

open TopicRelay.Broker TopicRelay.Config TopicRelay.Content TopicRelay.Control
open TopicRelay.Polling TopicRelay.Publication TopicRelay.Time

/-- A session has been stopped, if anybody holds it. -/
def World.Ended (key : SessionKey) (w : World) : Prop :=
  ∀ m, w.member? key = some m → m.session.stopped = true

/-- The cycle of an endpoint in its turn. The session is not stopped, its cycle is at a stage, and the
polls are those that have been seen. -/
structure Takes (f : Focus) (epoch period now : Nat) (a : Agenda Work) (stage : Stage)
    (polls : List Beat) (w : World) : Prop where
  there : ∃ m, w.member? f.key = some m ∧ m.session.stopped = false ∧ m.session.Orderly ∧
    m.session.period = period ∧
      ∃ c ∈ m.session.cycles, c.endpoint.name = f.name ∧ c.epoch = epoch ∧ c.stage = stage
  now : w.now = now
  agenda : ∃ works, w.agenda = a.spawnAll works
  polls : f.polls w = polls

variable {f : Focus} {epoch period now due : Nat} {a : Agenda Work} {stage : Stage}
  {polls beats : List Beat} {w w' : World} {m : Member} {p : Pause}

theorem World.Ended.tended {key : SessionKey} (h : w.Ended key) (tended : Tended w w') : w'.Ended key := by
  intro m' hm'
  have held := tended key
  cases there : w.member? key with
  | none =>
    rw [there, hm'] at held
    cases held
  | some m =>
    rw [there] at held
    obtain ⟨m₁, there₁, -, kept⟩ := held
    rw [hm'] at there₁
    cases there₁
    exact kept.ended (h m there)

theorem moveCycle_eq {key : SessionKey} (held : w.member? key = some m)
    (step : Polling.Session Handler → Polling.Session Handler × List (CycleEffect Handler)) :
    w.moveCycle key step =
      (step m.session).2.foldl (World.performCycle m) (w.setSession key (step m.session).1) := by
  unfold World.moveCycle
  rw [held]

namespace Takes

/-! ## Parts of a turn -/

theorem quiet (h : Takes f epoch period now a stage polls w) (quiet : Quiet w w') :
    Takes f epoch period now a stage polls w' where
  there := by
    rw [quiet.member?]
    exact h.there
  now := quiet.now.trans h.now
  agenda := by
    obtain ⟨works, first⟩ := h.agenda
    obtain ⟨more, second⟩ := quiet.agenda
    exact ⟨works ++ more, by rw [second, first, Agenda.spawnAll_append]⟩
  polls := (quiet.polls f.key f.name).trans h.polls

theorem setStage (h : Takes f epoch period now a stage polls w) (held : w.member? f.key = some m)
    (next : Stage) :
    Takes f epoch period now a next polls (w.setSession f.key (m.session.setStage epoch next)) := by
  obtain ⟨m', held', live, orderly, lasts, c, hc, name, rfl, -⟩ := h.there
  rw [held] at held'
  cases held'
  refine ⟨⟨{ m with session := m.session.setStage c.epoch next }, ?_, live,
    orderly.setStage c.epoch next, lasts, { c with stage := next }, ?_, name, rfl, rfl⟩,
    h.now, h.agenda, h.polls⟩
  · rw [World.member?_setSession, held, Option.map_some, if_pos rfl]
  · exact List.mem_map.2 ⟨c, hc, if_pos (beq_self_eq_true c.epoch)⟩

/-- A beat of the endpoint is seen. -/
theorem beat (h : Takes f epoch period now a stage polls w) {x : Happening} {b : Beat}
    (shows : pollBeat? f.key f.name (w.now, x) = some b) (endpoints : Endpoints) :
    Takes f epoch period now a stage (polls ++ [b]) { w.record x with endpoints } where
  there := h.there
  now := h.now
  agenda := h.agenda
  polls := by
    refine (polls_record x w f.key f.name).trans ?_
    rw [shows, Option.toList_some]
    exact congrArg (· ++ [b]) h.polls

/-- A poll event stops the session, or leaves it as it is. -/
theorem tell (h : Takes f epoch period now a stage polls w) {key : SessionKey} (own : key = f.key)
    (ev : PollEvent) :
    Takes f epoch period now a stage polls (w.pollEvent key ev) ∨ (w.pollEvent key ev).Ended f.key := by
  subst own
  obtain ⟨m, held, live, rest⟩ := h.there
  have counted : Takes f epoch period now a stage polls
      (if m.counted then { w with metrics := w.metrics.count ev } else w) := by
    split
    · exact h.quiet ((Quiet.refl w).withMetrics _)
    · exact h
  have same : (if m.counted then { w with metrics := w.metrics.count ev } else w).member? f.key =
      some m := by
    split <;> exact held
  unfold World.pollEvent
  rw [held]
  dsimp only
  generalize (if m.counted then { w with metrics := w.metrics.count ev } else w) = w₁ at counted same ⊢
  split
  · right
    intro m' hm'
    have disarmed : (w₁.mapMember f.key fun m => { m with stopOn := none }).member? f.key =
        some { m with stopOn := none } := by
      rw [World.member?_mapMember f.key (fun m => { m with stopOn := none }) (fun _ => rfl), same, Option.map_some, if_pos rfl]
    unfold World.stopSession at hm'
    rw [disarmed] at hm'
    dsimp only at hm'
    rw [World.member?_settleSession, disarmed, Option.map_some, if_pos rfl] at hm'
    cases hm'
    rfl
  · exact .inl counted

/-- A step that does not concern the stage of the cycle. -/
theorem idle (h : Takes f epoch period now a stage polls w)
    {step : Polling.Session Handler → Polling.Session Handler × List (CycleEffect Handler)}
    (still : ∀ s c, s.cycle? epoch = some c → c.stage = stage → step s = (s, [])) :
    Takes f epoch period now a stage polls (w.moveCycle f.key step) := by
  obtain ⟨m, held, live, orderly, lasts, c, hc, name, rfl, at_stage⟩ := h.there
  rw [moveCycle_eq held, still m.session c (orderly.cycle? hc) at_stage]
  refine ⟨⟨_, ?_, live, orderly, lasts, c, hc, name, rfl, at_stage⟩, h.now, h.agenda, h.polls⟩
  show (w.setSession f.key m.session).member? f.key = _
  rw [World.member?_setSession, held, Option.map_some, if_pos rfl]

theorem prepare (h : Takes f epoch period now a (.resting due) polls w) (reached : due ≤ now) :
    Takes f epoch period now a .prepared polls (w.moveCycle f.key fun s => s.prepare w.now epoch) ∨
      (w.moveCycle f.key fun s => s.prepare w.now epoch).Ended f.key := by
  obtain ⟨m, held, live, orderly, -, c, hc, -, rfl, rests⟩ := h.there
  obtain ⟨slot, -, -, wanted⟩ := orderly.polled? live hc
  have step : m.session.prepare w.now c.epoch =
      (m.session.setStage c.epoch .prepared, [.log (m.session.requestEntry slot.config), .tell .request]) := by
    simp [Polling.Session.prepare, orderly.cycle? hc, rests, wanted, h.now, Nat.not_lt.2 reached]
  have put := (h.setStage held .prepared).quiet (quiet_say (m.session.requestEntry slot.config) _)
  rw [moveCycle_eq held, step]
  exact put.tell (World.key_of_member? held) .request

theorem isPoll_pollRequest (held : w.member? f.key = some m) {c : Cycle} (name : c.endpoint.name = f.name) :
    (World.pollRequest m c).isPoll f.key f.name = true := by
  simp [Request.isPoll, World.pollRequest, World.key_of_member? held, name]

/-- The request is sent at once. Its answer comes when the endpoint gives it. -/
theorem sendPoll (h : Takes f epoch period now a .prepared polls w) : ∃ delay answer,
    Takes f epoch period now a (.requesting (now + delay) answer) (polls ++ [.started now])
      (w.sendPoll f.key epoch) := by
  obtain ⟨m, held, live, orderly, -, c, hc, name, rfl, ready⟩ := h.there
  have found : w.cycle? f.key c.epoch = some c := by
    rw [World.cycle?, held]
    exact orderly.cycle? hc
  obtain ⟨endpoints, answer, delay, asked⟩ : ∃ endpoints answer delay,
      w.endpoints.request c.endpoint.name = (endpoints, answer, delay) := ⟨_, _, _, rfl⟩
  have uncancelled : c.cancelled = false := (orderly.cancelled c hc).trans live
  have step : m.session.send (w.now + delay) answer c.epoch =
      (m.session.setStage c.epoch (.requesting (now + delay) answer), [.send c]) := by
    simp [Polling.Session.send, orderly.cycle? hc, ready, uncancelled, h.now]
  have put := h.setStage held (.requesting (now + delay) answer)
  refine ⟨delay, answer, ?_⟩
  unfold World.sendPoll
  rw [found]
  dsimp only
  rw [asked]
  dsimp only
  rw [moveCycle_eq held, step]
  refine put.beat ?_ _
  simp [pollBeat?, isPoll_pollRequest held name, put.now]

theorem receive {answer : Answer} (h : Takes f epoch period now a (.requesting due answer) polls w)
    (reached : due ≤ now) :
    Takes f epoch period now a (.answered answer) (polls ++ [.ended now])
        (w.moveCycle f.key fun s => s.receive w.now epoch) ∨
      (w.moveCycle f.key fun s => s.receive w.now epoch).Ended f.key := by
  obtain ⟨m, held, live, orderly, -, c, hc, name, rfl, asked⟩ := h.there
  have uncancelled : c.cancelled = false := (orderly.cancelled c hc).trans live
  have step : m.session.receive w.now c.epoch =
      (m.session.setStage c.epoch (.answered answer),
        [.settle c answer, .log (m.session.answerEntry c.endpoint answer), .tell (answerEvent answer)]) := by
    simp [Polling.Session.receive, Polling.Session.answer, orderly.cycle? hc, asked, uncancelled, h.now,
      Nat.not_lt.2 reached]
  have put := h.setStage held (.answered answer)
  have settled := put.beat (x := .answered (World.pollRequest m c)) (b := .ended now)
    (by simp [pollBeat?, isPoll_pollRequest held name, put.now])
    (w.endpoints.release c.endpoint.name)
  rw [moveCycle_eq held, step]
  exact (settled.quiet (quiet_say _ _)).tell (World.key_of_member? held) _

theorem conclude {answer : Answer} (h : Takes f epoch period now a (.answered answer) polls w) :
    Takes f epoch period now a (.resting (now + period)) polls
      (w.moveCycle f.key fun s => s.conclude w.now epoch) := by
  obtain ⟨m, held, live, orderly, rfl, c, hc, -, rfl, holds⟩ := h.there
  obtain ⟨slot, -, -, taken⟩ := orderly.receiver? live hc
  have step : m.session.conclude w.now c.epoch =
      (m.session.setStage c.epoch (.resting (now + m.session.period)),
        [.deliver c slot.handler answer]) := by
    simp [Polling.Session.conclude, orderly.cycle? hc, holds, taken, h.now]
  have put := h.setStage held (.resting (now + m.session.period))
  rw [moveCycle_eq held, step]
  exact put.quiet (quiet_handle m slot.handler answer _)

/-! ## A whole turn -/

/-- What a turn comes to: the polls have gone on with the score, up to what the cycle waits for next. -/
def Onward (f : Focus) (epoch period now : Nat) (a : Agenda Work) (w : World) : Prop :=
  ∃ stage p polls, Takes f epoch period now a stage polls w ∧ pauseOf stage = some p ∧ now ≤ p.due ∧
    ∃ d n beats, polls = f.before ++ beats ∧ Scored f.origin period d n p beats

/-- The answer is taken, if it has come, and handed over. -/
theorem takeAnswer {answer : Answer} {d : Nat → Nat} {n : Nat}
    (h : Takes f epoch period now a (.requesting due answer) (f.before ++ beats) w) (clock : now ≤ due)
    (scored : Scored f.origin period d n (.working due) beats) :
    let w₁ := w.moveCycle f.key fun s => s.receive w.now epoch
    Onward f epoch period now a (w₁.moveCycle f.key fun s => s.conclude w₁.now epoch) ∨
      (w₁.moveCycle f.key fun s => s.conclude w₁.now epoch).Ended f.key := by
  intro w₁
  rcases Nat.lt_or_eq_of_le clock with early | rfl
  · -- the endpoint takes its time
    have waits : Takes f epoch period now a (.requesting due answer) (f.before ++ beats) w₁ :=
      h.idle fun s c found asked => by simp [Polling.Session.receive, found, asked, h.now, early]
    have still : Takes f epoch period now a (.requesting due answer) (f.before ++ beats)
        (w₁.moveCycle f.key fun s => s.conclude w₁.now epoch) :=
      waits.idle fun s c found asked => by simp [Polling.Session.conclude, found, asked]
    exact .inl ⟨_, .working due, _, still, rfl, clock, d, n, beats, rfl, scored⟩
  · rcases h.receive (Nat.le_refl _) with answered | ended
    · have rests := answered.conclude
      rw [List.append_assoc] at rests
      exact .inl ⟨_, .resting (now + period), _, rests, rfl, Nat.le_add_right .., d, n + 1, _, rfl,
        scored.ends⟩
    · exact .inr (ended.tended (tended_step f.key epoch .conclude w₁))

/-- A cycle goes on when the instant for which it waits has come. -/
theorem runCycle {d : Nat → Nat} {n : Nat} (h : Takes f epoch period now a stage (f.before ++ beats) w)
    (pause : pauseOf stage = some p) (reached : p.due = now)
    (scored : Scored f.origin period d n p beats) :
    Onward f epoch period now a (w.runCycle f.key epoch) ∨ (w.runCycle f.key epoch).Ended f.key := by
  cases stage with
  | prepared | answered => cases pause
  | resting due =>
    cases pause
    obtain rfl : due = now := reached
    -- the listener may stop the session when it is told of the request
    rcases h.prepare (Nat.le_refl _) with ready | ended
    · obtain ⟨delay, answer, asked⟩ := ready.sendPoll
      rw [List.append_assoc] at asked
      exact asked.takeAnswer (Nat.le_add_right ..) (scored.begins delay)
    · have sent := ended.tended (tended_sendPoll f.key epoch _)
      have received := sent.tended (tended_step f.key epoch .receive _)
      exact .inr (received.tended (tended_step f.key epoch .conclude _))
  | requesting due answer =>
    cases pause
    obtain rfl : due = now := reached
    have prepared : Takes f epoch period due a (.requesting due answer) (f.before ++ beats)
        (w.moveCycle f.key fun s => s.prepare w.now epoch) :=
      h.idle fun s c found asked => by simp [Polling.Session.prepare, found, asked]
    have sent : Takes f epoch period due a (.requesting due answer) (f.before ++ beats)
        ((w.moveCycle f.key fun s => s.prepare w.now epoch).sendPoll f.key epoch) := by
      unfold World.sendPoll
      split
      · exact prepared
      · exact prepared.idle fun s c found asked => by simp [Polling.Session.send, found, asked]
    exact sent.takeAnswer (Nat.le_refl _) scored

theorem cycleDue? (h : Takes f epoch period now a stage polls w) (pause : pauseOf stage = some p) :
    w.cycleDue? f.key epoch = some p.due := by
  obtain ⟨m, held, -, orderly, -, c, hc, -, rfl, rfl⟩ := h.there
  have found : w.cycle? f.key c.epoch = some c := by
    rw [World.cycle?, held]
    exact orderly.cycle? hc
  rw [World.cycleDue?, found, Option.bind_some]
  cases at_stage : c.stage with
  | prepared | answered =>
    rw [at_stage] at pause
    cases pause
  | resting | requesting =>
    rw [at_stage] at pause
    cases pause
    rfl

end Takes

/-! ## The task of the cycle -/

variable {x : Scope} {t : Time.Task Work}

theorem Sane.refocus (h : Sane x w) (focus : Option Focus) : Sane { x with focus } w :=
  ⟨h.keys, h.counted, h.orderly, h.manages, h.governs, h.numbered, h.running⟩

theorem suspend_eq (numbered : w.agenda.Numbered) (ht : t ∈ w.agenda.tasks) (active : t.aborted = false)
    (dues : List Nat) :
    w.suspend t.id t.work dues = { w with
      agenda := { dues.foldl (fun a due => a.sleep t.id due) (w.agenda.setWork t.id t.work) with
        current := none } } := by
  unfold World.suspend
  rw [Agenda.task?_of_mem numbered.ids ht]
  simp [active]

/-- The work of an endpoint that is polled is kept by its cycle. -/
theorem Follows.keeps_of_own {c : Cycle} (h : Follows f x w) (held : w.member? f.key = some m)
    (live : m.session.stopped = false) (orderly : m.session.Orderly) (hc : c ∈ m.session.cycles)
    (name : c.endpoint.name = f.name) : ∃ t p, Keeps f x m c t p w := by
  cases h with
  | latent _ _ _ unpolled => exact absurd name (unpolled m held c hc)
  | @kept m' c' t p keeps =>
    have same := keeps.member
    rw [held] at same
    cases same
    obtain rfl := List.inj_on_of_nodup_map orderly.cycleNames hc keeps.cycle (name.trans keeps.name.symm)
    exact ⟨t, p, keeps⟩
  | ended gone => exact absurd live (gone.not_live held)

/-- After its turn the task of the cycle waits for the next instant. -/
theorem Fine.rest_own (h : Fine ⟨none, [], some t.id⟩ w)
    (takes : Takes f epoch period now a stage (f.before ++ beats) w) (ht : t ∈ a.tasks)
    (work : t.work = .cycle f.key epoch) (active : t.aborted = false) (pause : pauseOf stage = some p)
    (clock : now ≤ p.due) {d : Nat → Nat} {n : Nat} (scored : Scored f.origin period d n p beats) :
    Fine ⟨some f, [], none⟩ (w.suspend t.id t.work [p.due]) := by
  obtain ⟨m, held, live, -, rfl, c, hc, name, rfl, rfl⟩ := takes.there
  obtain ⟨works, agenda⟩ := takes.agenda
  have there : t ∈ w.agenda.tasks := agenda ▸ Agenda.mem_spawnAll ht works
  refine ⟨(h.suspend t.work [p.due]).endTurn.sane.refocus (some f), ?_⟩
  rintro _ ⟨⟩
  rw [suspend_eq h.sane.numbered there active]
  exact .kept (p := p) {
    member := held
    live
    cycle := hc
    name
    pause
    clock := takes.now ▸ clock
    plays := ⟨d, n, beats, takes.polls, scored⟩
    work
    active
    apart := nofun
    stands := Agenda.stands_rest there w.now p.due }

/-- A session that was stopped in the turn of its cycle is gone. -/
theorem Fine.end_own (h : Fine ⟨none, [], some t.id⟩ w') (held : w.member? f.key = some m)
    (tended : Tended w w') (ended : w'.Ended f.key) (dues : List Nat) :
    Fine ⟨some f, [], none⟩ (w'.suspend t.id t.work dues) := by
  have still := tended f.key
  rw [held] at still
  obtain ⟨m', held', -⟩ := still
  have gone : Fine ⟨some f, [], some t.id⟩ w' := by
    refine ⟨h.sane.refocus (some f), ?_⟩
    rintro _ ⟨⟩
    exact .ended ((h.sane.refocus (some f)).gone held' w' id ended)
  exact (gone.suspend t.work dues).endTurn

/-- A task that is woken before its instant goes on waiting. -/
theorem Fine.wait_own (h : Fine ⟨none, [], some t.id⟩ { w with agenda := a }) {c : Cycle}
    {t' : Time.Task Work} (keeps : Keeps f ⟨some f, [], none⟩ m c t' p w) (early : w.now < p.due)
    (popped : w.agenda.pop? = some (t, a)) (active : t.aborted = false) :
    Fine ⟨some f, [], none⟩ (({ w with agenda := a } : World).suspend t.id t.work []) := by
  refine ⟨(h.suspend t.work []).endTurn.sane.refocus (some f), ?_⟩
  rintro _ ⟨⟩
  obtain ⟨ht, rest, first, rfl⟩ := Agenda.pop?_eq_some popped
  rw [suspend_eq h.sane.numbered ht active]
  have stands := (keeps.stands.pop first (fun _ => early) (some t.id)).mapTask
    (f := fun x => { x with work := t.work }) fun same : t'.id = t.id => by
      rw [h.sane.numbered.eq_of_id keeps.stands.there ht same]
  exact .kept { keeps with stands := ⟨stands.there, stands.called⟩ }

/-- The cycle that polls the endpoint has its turn. -/
theorem Fine.runNext_own (h : Fine ⟨some f, [], none⟩ w) (popped : w.agenda.pop? = some (t, a))
    (active : t.aborted = false) (own : f.Own t.work w) : Fine ⟨some f, [], none⟩ w.runNext := by
  obtain ⟨m, held, live, c, hc, name, work⟩ := own
  have orderly := h.sane.orderly m (mem_of_member? held)
  obtain ⟨t', p, keeps⟩ := (h.follows f rfl).keeps_of_own held live orderly hc name
  obtain ⟨d, n, beats, seen, scored⟩ := keeps.plays
  have popping := h.unfollow.pop popped (.inr nofun)
  have turning : Fine ⟨none, [], some t.id⟩
      (({ w with agenda := a } : World).turnCycle f.key c.epoch).1 := popping.turnCycle nofun
  have comes : w.runNext = ((({ w with agenda := a } : World).turnCycle f.key c.epoch).1.suspend t.id
      t.work (({ w with agenda := a } : World).turnCycle f.key c.epoch).2.toList).letGo := by
    refine runNext_waits popped active ?_
    rw [work]
    rfl
  have begun : Takes f c.epoch m.session.period w.now a c.stage (f.before ++ beats)
      { w with agenda := a } :=
    ⟨⟨m, held, live, orderly, rfl, c, hc, name, rfl, rfl⟩, rfl, ⟨[], rfl⟩, seen⟩
  have ht : t ∈ a.tasks := by
    obtain ⟨ht, rest, first, rfl⟩ := Agenda.pop?_eq_some popped
    exact ht
  rw [comes]
  refine Fine.letGo ?_
  unfold World.turnCycle at turning ⊢
  rw [begun.cycleDue? keeps.pause] at turning ⊢
  rcases Nat.lt_or_eq_of_le keeps.clock with early | reached
  · -- the task was woken before the instant for which the cycle waits
    have still : (Option.any (fun due => decide (due ≤ w.now)) (some p.due)) ≠ true := by
      simpa using early
    rw [if_neg still]
    exact popping.wait_own keeps early popped active
  · have due : (Option.any (fun due => decide (due ≤ w.now)) (some p.due)) = true := by
      simp [reached]
    have tended := tended_runCycle f.key c.epoch ({ w with agenda := a } : World)
    have outcome := begun.runCycle keeps.pause reached.symm scored
    rw [if_pos due] at turning ⊢
    dsimp only at turning ⊢
    generalize ({ w with agenda := a } : World).runCycle f.key c.epoch = w' at turning tended outcome ⊢
    rcases outcome with ⟨stage, p', polls, takes, pause, clock, d', n', beats', rfl, scored'⟩ | ended
    · rw [takes.cycleDue? pause]
      exact turning.rest_own takes ht work active pause clock scored'
    · exact turning.end_own (w := { w with agenda := a }) held tended ended _

end TopicRelay.Simulation
