/-
Cycles of a session that runs, as one of its endpoints sees them. A turn of a cycle asks its endpoint
and, once that has answered, hands the answer over. The cycle of the endpoint of the solo does so for
the solo; what the other cycles do makes no difference to it.
-/
import TopicRelay.Proofs.Simulation.Shows

namespace TopicRelay.Simulation

open TopicRelay.Broker TopicRelay.Config TopicRelay.Content TopicRelay.Control
open TopicRelay.Polling TopicRelay.Publication TopicRelay.Time

variable {s : ServiceConfig} {e : EndpointConfig} {own : Option Nat}
  {ses ses' : Polling.Session Handler} {w₀ w w₁ w₂ : World} {v : Solo} {t : Time.Task Work} {c : Cycle}
  {mine : Bool}

/-! ## Whose cycle it is -/

theorem Shows.own_iff (h : Shows s e own ses w v) (hc : c ∈ ses.cycles) :
    own = some c.epoch ↔ c.endpoint.name = e.name := by
  constructor
  · intro hown
    obtain ⟨-, slot, -, x, hx, name, config, epoch, -⟩ := (hown ▸ h.tracks).exists_of_own
    obtain rfl := List.inj_on_of_nodup_map h.orderly.cycleEpochs hx hc epoch
    rw [config, name]
  · intro same
    obtain ⟨-, slot, hs, config, epoch⟩ := h.orderly.slot_of_cycle h.live hc
    have tracks := h.tracks
    have known := tracks.isSome h.orderly
    rw [← same, ← config, h.orderly.slot? hs] at known
    obtain ⟨f, feed⟩ := Option.isSome_iff_exists.1 known
    rw [feed] at tracks
    obtain ⟨-, mySlot, hms, -, -, name, -, -, -, -, hown⟩ := tracks
    have heq : mySlot.config.name = slot.config.name := by rw [name, config, same]
    obtain rfl := List.inj_on_of_nodup_map h.orderly.names hms hs heq
    rw [hown, epoch]

/-- The handler of the endpoint takes what its cycle hands over. -/
theorem Shows.feed (h : Shows s e own ses w v) (hc : c ∈ ses.cycles)
    (mine : c.endpoint.name = e.name) :
    ∃ handler, v.feed = some (handler, c.stage) ∧ ses.receiver? c = some handler ∧
      handler.label = s.endpointLabel e := by
  have hown := (h.own_iff hc).2 mine
  obtain ⟨-, slot, hs, x, hx, name, config, epoch, -, feed⟩ := (hown ▸ h.tracks).exists_of_own
  obtain rfl := List.inj_on_of_nodup_map h.orderly.cycleEpochs hx hc epoch
  obtain ⟨taker, ht, config', taken⟩ := h.orderly.receiver? h.live hc
  obtain rfl := List.inj_on_of_nodup_map h.orderly.names ht hs (by rw [config', config])
  refine ⟨taker.handler, feed, taken, ?_⟩
  rw [h.labels taker hs, endpointLabel_inj, name]

/-! ## Parts of a turn -/

/-- Something is done for the endpoint, if it is its turn. -/
def Solo.when (mine : Bool) (f : Solo → Solo) (v : Solo) : Solo :=
  if mine then f v else v

/-- A world that shows a solo, in the midst of the turn of a cycle. -/
structure Turns (s : ServiceConfig) (e : EndpointConfig) (mine : Bool) (w₀ : World) (own : Option Nat)
    (ses : Polling.Session Handler) (w : World) (v : Solo) (t : Time.Task Work) (c : Cycle) : Prop where
  shows : Shows s e own ses w v
  still : Still w₀ w
  task : t ∈ w₀.agenda.tasks
  work : t.work = .cycle soloKey c.epoch
  runs : w₀.agenda.current = some t.id
  cycle : c ∈ ses.cycles
  whose : mine = true ↔ c.endpoint.name = e.name
  clock : mine = true → v.now = w.now

theorem Turns.alike (h : Turns s e mine w₀ own ses w v t c) (alike : Alike s e w w₁) :
    Turns s e mine w₀ own ses w₁ v t c :=
  { h with
    shows := h.shows.alike alike
    still := h.still.trans alike.still
    clock := fun hmine => (h.clock hmine).trans alike.now.symm }

theorem mem_setStage_own (hc : c ∈ ses.cycles) (stage : Stage) :
    { c with stage } ∈ (ses.setStage c.epoch stage).cycles :=
  List.mem_map.2 ⟨c, hc, by simp⟩

/-- The cycle of the endpoint enters a stage. -/
theorem Tracks.setStage_own {feed : Option (Handler × Stage)} (h : Tracks e ses (some c.epoch) feed)
    (orderly : ses.Orderly) (hc : c ∈ ses.cycles) (stage : Stage) :
    Tracks e (ses.setStage c.epoch stage) (some c.epoch) (feed.map fun f => (f.1, stage)) := by
  obtain ⟨running, slot, hs, x, hx, name, config, epoch, same, rfl⟩ := h.exists_of_own
  obtain rfl := List.inj_on_of_nodup_map orderly.cycleEpochs hx hc epoch
  exact ⟨running, slot, hs, _, mem_setStage_own hx stage, name, rfl, config, same.symm, rfl,
    congrArg some same.symm⟩

/-- The cycle of another endpoint enters a stage. -/
theorem Tracks.setStage_other {feed : Option (Handler × Stage)} (h : Tracks e ses own feed) {epoch : Nat}
    (other : own ≠ some epoch) (stage : Stage) : Tracks e (ses.setStage epoch stage) own feed := by
  cases feed with
  | none => exact h
  | some f =>
    obtain ⟨running, slot, hs, x, hx, name, handler, config, same, rest, hown⟩ := h
    have hne : x.epoch ≠ epoch := fun heq => other (by rw [hown, ← same, heq])
    exact ⟨running, slot, hs, x, List.mem_map.2 ⟨x, hx, by simp [hne]⟩, name, handler, config, same, rest,
      hown⟩

/-- Of all that tasks want, only that of the running cycle may change with how far it has gone. -/
theorem Turns.same (h : Turns s e mine w₀ own ses w v t c) (feed : Option (Handler × Stage))
    (hown : own = some c.epoch) : ∀ x ∈ w.agenda.tasks,
      soloWants e own feed x.work = soloWants e own v.feed x.work ∨
        w.agenda.current = some x.id ∧ soloLone x.work = true := by
  intro x hx
  cases hwork : x.work with
  | cycle key n =>
    by_cases heq : n = c.epoch
    · subst heq
      obtain rfl := h.shows.epochs t (h.still.onward.tasks t h.task) x hx _ _ _ h.work hwork
      exact .inr ⟨h.still.onward.current.trans h.runs, rfl⟩
    · have other : own ≠ some n := by
        rw [hown]
        exact fun hn => heq (Option.some.inj hn).symm
      exact .inl (by simp [soloWants, other])
  | pass | metrics | opening | notification => exact .inl rfl

/-- The cycle enters a stage. -/
theorem Turns.setStage (h : Turns s e mine w₀ own ses w v t c) (stage : Stage) :
    Turns s e mine w₀ own (ses.setStage c.epoch stage)
      { w with members := [soloMember (ses.setStage c.epoch stage)] }
      (v.when mine (Solo.setStage stage)) t { c with stage } := by
  have shows := h.shows
  have put (feed : Option (Handler × Stage)) (tracks : Tracks e (ses.setStage c.epoch stage) own feed)
      (same : ∀ x ∈ w.agenda.tasks, soloWants e own feed x.work = soloWants e own v.feed x.work ∨
        w.agenda.current = some x.id ∧ soloLone x.work = true) :=
    shows.reseat (ses.setStage c.epoch stage) rfl shows.live id (Nat.le_refl _)
      (shows.orderly.setStage _ _) shows.dormant shows.labels tracks same
  refine { h with
    shows := ?_
    still := ⟨h.still.now, h.still.agenda⟩
    cycle := mem_setStage_own h.cycle stage
    clock := fun hmine => by rw [hmine]; exact h.clock hmine }
  have hown := (shows.own_iff h.cycle).trans h.whose.symm
  cases hmine : mine with
  | true =>
    have hme := hown.2 hmine
    refine put _ ?_ (h.same _ hme)
    rw [hme]
    exact (hme ▸ shows.tracks).setStage_own shows.orderly h.cycle stage
  | false =>
    have other : own ≠ some c.epoch := fun hme => by
      rw [hown.1 hme] at hmine
      cases hmine
    exact put v.feed (shows.tracks.setStage_other other stage) fun _ _ => .inl rfl

theorem Shows.moveCycle (h : Shows s e own ses w v)
    {step : Polling.Session Handler → Polling.Session Handler × List (CycleEffect Handler)}
    {effects : List (CycleEffect Handler)} (comes : step ses = (ses', effects)) :
    w.moveCycle soloKey step =
      effects.foldl (World.performCycle (soloMember ses)) { w with members := [soloMember ses'] } := by
  unfold World.moveCycle
  rw [h.member?]
  simp only [soloMember, comes]
  rw [h.setSession]
  rfl

theorem Shows.moveCycle_idle (h : Shows s e own ses w v)
    {step : Polling.Session Handler → Polling.Session Handler × List (CycleEffect Handler)}
    (idle : step ses = (ses, [])) : w.moveCycle soloKey step = w := by
  rw [h.moveCycle idle, ← h.members]
  rfl

/-- Poll events are counted, and stop nothing. -/
theorem Shows.alike_tell (h : Shows s e own ses w v) (ev : PollEvent) :
    Alike s e w (w.pollEvent soloKey ev) := by
  unfold World.pollEvent
  rw [h.member?]
  exact ⟨rfl, rfl, rfl, rfl, rfl, rfl, rfl, rfl⟩

theorem Turns.tell (h : Turns s e mine w₀ own ses w v t c) (ev : PollEvent) :
    Turns s e mine w₀ own ses (w.pollEvent soloKey ev) v t c :=
  h.alike (h.shows.alike_tell ev)

/-- An execution begins. -/
theorem Turns.prepare (h : Turns s e mine w₀ own ses w v t c) {due : Nat}
    (rests : c.stage = .resting due) (reached : due ≤ w.now) :
    ∃ ses', Turns s e mine w₀ own ses' (w.moveCycle soloKey fun s => s.prepare w.now c.epoch)
      (v.when mine (Solo.setStage .prepared)) t { c with stage := .prepared } := by
  obtain ⟨slot, -, -, wanted⟩ := h.shows.orderly.polled? h.shows.live h.cycle
  have comes : ses.prepare w.now c.epoch =
      (ses.setStage c.epoch .prepared, [.log (ses.requestEntry slot.config), .tell .request]) := by
    unfold Polling.Session.prepare
    rw [h.shows.orderly.cycle? h.cycle]
    simp only [rests, if_neg (Nat.not_lt.2 reached), wanted]
  have silent : (ses.requestEntry slot.config).event ≠ "poll_publish_ok" := by
    simp [Polling.Session.requestEntry, Polling.Session.entry]
  rw [h.shows.moveCycle comes]
  exact ⟨_, ((h.setStage .prepared).alike (alike_say silent _)).tell .request⟩

/-- The request goes out, to be answered in some way after some time. -/
theorem Turns.send (h : Turns s e mine w₀ own ses w v t c) (ready : c.stage = .prepared)
    {answer : Answer} {delay : Nat} (asks : (w.endpoints.request c.endpoint.name).2 = (answer, delay)) :
    ∃ ses', Turns s e mine w₀ own ses' (w.sendPoll soloKey c.epoch)
      (v.when mine fun v => (v.setStage (.requesting (w.now + delay) answer)).request s e .poll) t
      { c with stage := .requesting (w.now + delay) answer } := by
  have cycle? : w.cycle? soloKey c.epoch = some c := by
    unfold World.cycle?
    rw [h.shows.member?]
    exact h.shows.orderly.cycle? h.cycle
  have comes : ses.send (w.now + delay) answer c.epoch =
      (ses.setStage c.epoch (.requesting (w.now + delay) answer), [.send c]) := by
    unfold Polling.Session.send
    rw [h.shows.orderly.cycle? h.cycle]
    simp [ready, h.shows.orderly.uncancelled h.shows.live c h.cycle]
  have world : w.sendPoll soloKey c.epoch =
      World.asked .poll s c.endpoint
        { w with members := [soloMember (ses.setStage c.epoch (.requesting (w.now + delay) answer))] } := by
    unfold World.sendPoll
    simp only [cycle?, asks]
    rw [h.shows.moveCycle comes, ← h.shows.service]
    rfl
  rw [world]
  have staged := h.setStage (.requesting (w.now + delay) answer)
  cases hmine : mine with
  | true =>
    have same := h.whose.1 hmine
    rw [hmine] at staged
    have asked := staged.shows.asked (h.clock hmine) .poll
    have world : ∀ w : World, World.asked .poll s c.endpoint w = World.asked .poll s e w := by
      intro w
      unfold World.asked
      rw [same]
    rw [world]
    exact ⟨_, { staged with
      shows := asked
      still := staged.still.trans (still_asked .poll s e _) }⟩
  | false =>
    have other : c.endpoint.name ≠ e.name := by
      intro same
      rw [h.whose.2 same] at hmine
      cases hmine
    rw [hmine] at staged
    exact ⟨_, staged.alike (alike_asked .poll other _)⟩

/-- The answer comes. -/
theorem Turns.receive (h : Turns s e mine w₀ own ses w v t c) {due : Nat} {a : Answer}
    (asked : c.stage = .requesting due a) (reached : due ≤ w.now) :
    ∃ ses', Turns s e mine w₀ own ses' (w.moveCycle soloKey fun s => s.receive w.now c.epoch)
      (v.when mine (Solo.setStage (.answered a))) t { c with stage := .answered a } := by
  have comes : ses.receive w.now c.epoch = (ses.setStage c.epoch (.answered a),
      [.settle c a, .log (ses.answerEntry c.endpoint a), .tell (answerEvent a)]) := by
    unfold Polling.Session.receive Polling.Session.answer
    rw [h.shows.orderly.cycle? h.cycle]
    simp [asked, Nat.not_lt.2 reached, h.shows.orderly.uncancelled h.shows.live c h.cycle]
  have silent : (ses.answerEntry c.endpoint a).event ≠ "poll_publish_ok" := by
    cases a <;> simp [Polling.Session.answerEntry, Polling.Session.entry]
  rw [h.shows.moveCycle comes]
  have settled (w : World) : Alike s e w (World.performCycle (soloMember ses) w (.settle c a)) :=
    (alike_record (h := .answered (World.pollRequest (soloMember ses) c)) rfl w).trans
      (alike_release c.endpoint.name _)
  exact ⟨_, (((h.setStage (.answered a)).alike (settled _)).alike (alike_say silent _)).tell _⟩

/-- What comes of an answer that is handed over: an entry that it is not published, or the
publication. -/
theorem handle_cases (m : Polling.Session Handler) (handler : Handler) (a : Answer) (w : World)
    (v : Solo) :
    (∃ reason, w.handle (soloMember m) handler a = w.say (handler.entry (some reason)) ∧
        v.deliver handler a = v) ∨
      ∃ x, w.handle (soloMember m) handler a =
          (w.record (.published (some soloKey) handler.target.topicPath x)).say (handler.entry none) ∧
        v.deliver handler a = v.tell (.published (some soloKey) handler.target.topicPath x) := by
  unfold World.handle World.publish Solo.deliver
  cases handler.value a with
  | error err => exact .inl ⟨_, rfl, rfl⟩
  | ok x =>
    cases fits : handler.target.check x with
    | error err => exact .inl ⟨err.message, by simp only [fits], by simp only [fits]⟩
    | ok kind => exact .inr ⟨x, by simp only [fits]; rfl, by simp only [fits]⟩

theorem alike_failure (handler : Handler) (reason : String) (w : World) :
    Alike s e w (w.say (handler.entry (some reason))) :=
  alike_say (by simp [Handler.entry]) w

/-- An answer is handed to the handler of the endpoint. -/
theorem Shows.handle (h : Shows s e own ses w v) (clock : v.now = w.now) {handler : Handler}
    (label : handler.label = s.endpointLabel e) (m : Polling.Session Handler) (a : Answer) :
    Shows s e own ses (w.handle (soloMember m) handler a) (v.deliver handler a) := by
  rcases handle_cases m handler a w v with ⟨reason, world, solo⟩ | ⟨x, world, solo⟩
  · rw [world, solo]
    exact h.alike (alike_failure handler reason w)
  · have tells : tellsOf s e (handler.entry none) = true := by
      rw [tellsOf_entry, label]
      exact beq_self_eq_true _
    rw [world, solo]
    refine { h with told := ?_ }
    refine (concerning_published tells w.now w.now (some soloKey) handler.target.topicPath x
      w.history).trans ?_
    rw [h.told, ← clock]
    rfl

/-- An answer is handed to the handler of another endpoint. -/
theorem alike_handle {handler : Handler} (label : handler.label ≠ s.endpointLabel e)
    (m : Polling.Session Handler) (a : Answer) (w : World) :
    Alike s e w (w.handle (soloMember m) handler a) := by
  rcases handle_cases m handler a w {} with ⟨reason, world, -⟩ | ⟨x, world, -⟩
  · rw [world]
    exact alike_failure handler reason w
  · have published := alike_record (s := s) (e := e)
      (h := .published (some soloKey) handler.target.topicPath x) rfl w
    have told : (Happening.logged (handler.entry none)).passes s e = true := by
      simp [Happening.passes, tellsOf_entry, label]
    rw [world]
    exact published.trans (alike_record told _)

theorem still_handle (m : Polling.Session Handler) (handler : Handler) (a : Answer) (w : World) :
    Still w (w.handle (soloMember m) handler a) := by
  rcases handle_cases m handler a w {} with ⟨reason, world, -⟩ | ⟨x, world, -⟩
  · rw [world]
    exact ⟨rfl, rfl⟩
  · rw [world]
    exact ⟨rfl, rfl⟩

theorem now_deliver (handler : Handler) (a : Answer) (v : Solo) : (v.deliver handler a).now = v.now := by
  rcases handle_cases {service := default} handler a {} v with ⟨_, _, solo⟩ | ⟨_, _, solo⟩ <;> rw [solo]
  rfl

/-- The cycle hands over an answer and rests until an instant. -/
def Solo.handOver (due : Nat) (a : Answer) (v : Solo) : Solo :=
  match v.feed with
  | some (handler, _) => (v.setStage (.resting due)).deliver handler a
  | none => v

/-- The answer is handed over, and the cycle rests. -/
theorem Turns.conclude (h : Turns s e mine w₀ own ses w v t c) {a : Answer}
    (holds : c.stage = .answered a) :
    ∃ ses', Turns s e mine w₀ own ses' (w.moveCycle soloKey fun s => s.conclude w.now c.epoch)
      (v.when mine (Solo.handOver (w.now + s.pollPeriodMs.toNat) a)) t
      { c with stage := .resting (w.now + s.pollPeriodMs.toNat) } := by
  obtain ⟨slot, hs, hconfig, taken⟩ := h.shows.orderly.receiver? h.shows.live h.cycle
  have comes : ses.conclude w.now c.epoch =
      (ses.setStage c.epoch (.resting (w.now + s.pollPeriodMs.toNat)), [.deliver c slot.handler a]) := by
    unfold Polling.Session.conclude Polling.Session.period
    rw [h.shows.orderly.cycle? h.cycle]
    simp only [holds, taken, h.shows.service]
  have label := h.shows.labels slot hs
  rw [hconfig] at label
  have staged := h.setStage (.resting (w.now + s.pollPeriodMs.toNat))
  rw [h.shows.moveCycle comes]
  cases hmine : mine with
  | true =>
    have same := h.whose.1 hmine
    obtain ⟨handler, hfeed, taken', label'⟩ := h.shows.feed h.cycle same
    rw [taken] at taken'
    cases taken'
    rw [hmine] at staged
    have handed := staged.shows.handle (h.clock hmine) label' ses a
    refine ⟨_, { staged with
      shows := ?_
      still := staged.still.trans (still_handle ses slot.handler a _)
      clock := ?_ }⟩
    · simp only [Solo.when, if_true, Solo.handOver, hfeed]
      exact handed
    · intro _
      simp only [Solo.when, if_true, Solo.handOver, hfeed, now_deliver]
      exact (h.clock hmine).trans (still_handle ses slot.handler a
        { w with members := [soloMember (ses.setStage c.epoch _)] }).now.symm
  | false =>
    have other : slot.handler.label ≠ s.endpointLabel e := by
      rw [label, ne_eq, endpointLabel_inj]
      intro same
      rw [h.whose.2 same] at hmine
      cases hmine
    rw [hmine] at staged
    exact ⟨_, staged.alike (alike_handle other ses a _)⟩

/-! ## Turns of cycles -/

theorem Turns.cycleDue (h : Turns s e mine w₀ own ses w v t c) :
    w.cycleDue? soloKey c.epoch = c.stage.due? := by
  unfold World.cycleDue? World.cycle?
  rw [h.shows.member?]
  show ((ses.cycle? c.epoch).bind fun c => c.stage.due?) = _
  rw [h.shows.orderly.cycle? h.cycle]
  rfl

/-- What the cycle wants for the endpoint, if it is its cycle. -/
theorem Shows.wants_cycle (h : Shows s e own ses w v) (hc : c ∈ ses.cycles) :
    soloWants e own v.feed (.cycle soloKey c.epoch) =
      if c.endpoint.name = e.name then c.stage.due?.map fun due => (due, .poll) else none := by
  show (if own = some c.epoch then v.feed.bind fun f => f.2.due?.map fun due => (due, Job.poll)
    else none) = _
  by_cases mine : c.endpoint.name = e.name
  · obtain ⟨handler, hfeed, -⟩ := h.feed hc mine
    rw [if_pos mine, if_pos ((h.own_iff hc).2 mine), hfeed]
    rfl
  · rw [if_neg mine, if_neg fun hown => mine ((h.own_iff hc).1 hown)]

theorem when_when (f g : Solo → Solo) (v : Solo) :
    (v.when mine f).when mine g = v.when mine fun v => g (f v) := by
  cases mine <;> rfl

/-- The last parts of a turn: an answer that has come is taken and handed over. -/
def World.takePoll (key : SessionKey) (epoch : Nat) (w : World) : World :=
  let w := w.moveCycle key fun s => s.receive w.now epoch
  w.moveCycle key fun s => s.conclude w.now epoch

theorem Turns.takePoll (h : Turns s e mine w₀ own ses w v t c) {due : Nat} {a : Answer}
    (asked : c.stage = .requesting due a) (reached : due ≤ w.now) :
    ∃ ses', Turns s e mine w₀ own ses' (w.takePoll soloKey c.epoch)
      (v.when mine fun v =>
        (v.setStage (.answered a)).handOver (w.now + s.pollPeriodMs.toNat) a) t
      { c with stage := .resting (w.now + s.pollPeriodMs.toNat) } := by
  obtain ⟨ses₁, h₁⟩ := h.receive asked reached
  obtain ⟨ses₂, h₂⟩ := h₁.conclude rfl
  have now : (w.moveCycle soloKey fun s => s.receive w.now c.epoch).now = w.now :=
    h₁.still.now.trans h.still.now.symm
  rw [when_when] at h₂
  unfold World.takePoll
  dsimp only
  rw [now] at h₂ ⊢
  exact ⟨ses₂, h₂⟩

/-- An answer that has not come is waited for. -/
theorem Turns.takePoll_early (h : Turns s e mine w₀ own ses w v t c) {due : Nat} {a : Answer}
    (asked : c.stage = .requesting due a) (early : w.now < due) : w.takePoll soloKey c.epoch = w := by
  have cycle? := h.shows.orderly.cycle? h.cycle
  have received : (w.moveCycle soloKey fun s => s.receive w.now c.epoch) = w :=
    h.shows.moveCycle_idle (by simp [Polling.Session.receive, cycle?, asked, early])
  have concluded : (w.moveCycle soloKey fun s => s.conclude w.now c.epoch) = w :=
    h.shows.moveCycle_idle (by simp [Polling.Session.conclude, cycle?, asked])
  unfold World.takePoll
  rw [received, concluded]

theorem setStage_setStage (first last : Stage) (v : Solo) :
    (v.setStage first).setStage last = v.setStage last := by
  unfold Solo.setStage
  rw [Option.map_map]
  rfl

theorem deliver_setStage (stage : Stage) (handler : Handler) (a : Answer) (v : Solo) :
    (v.setStage stage).deliver handler a = (v.deliver handler a).setStage stage := by
  unfold Solo.deliver
  cases handler.value a with
  | error err => rfl
  | ok x =>
    cases fits : handler.target.check x <;> simp only [fits]
    rfl

theorem request_setStage (stage : Stage) (purpose : Purpose) (v : Solo) :
    (v.setStage stage).request s e purpose = (v.request s e purpose).setStage stage :=
  rfl

theorem handOver_of_feed (handler : Handler) (stage : Stage) (feed : v.feed = some (handler, stage))
    (due : Nat) (a : Answer) : v.handOver due a = (v.deliver handler a).setStage (.resting due) := by
  unfold Solo.handOver
  rw [feed]
  exact deliver_setStage ..

section Poll

variable {handler : Handler} {due : Nat}

/-- A poll that is answered at once. -/
theorem poll_of_prompt (feed : v.feed = some (handler, .resting due)) (prompt : v.delay = 0)
    (later : Nat) :
    v.poll s e =
      (((((v.setStage .prepared).setStage (.requesting later (v.answer e))).request s e .poll).setStage
        (.answered (v.answer e))).handOver (v.rest s) (v.answer e)).await (v.rest s) .poll := by
  rw [handOver_of_feed handler (.answered (v.answer e))
    (by simp [Solo.setStage, Solo.request, Solo.tell, feed])]
  simp only [Solo.poll, feed, prompt, if_true, request_setStage, setStage_setStage, deliver_setStage]
  rfl

/-- A poll that has to wait for its answer. -/
theorem poll_of_slow (feed : v.feed = some (handler, .resting due)) (slow : v.delay ≠ 0) :
    v.poll s e =
      (((v.setStage .prepared).setStage (.requesting (v.now + v.delay) (v.answer e))).request s e
        .poll).await (v.now + v.delay) .poll := by
  simp only [Solo.poll, feed, slow, if_false, request_setStage, setStage_setStage]

/-- An answer that has been waited for. -/
theorem poll_of_requesting {a : Answer} (feed : v.feed = some (handler, .requesting due a)) :
    v.poll s e = ((v.setStage (.answered a)).handOver (v.rest s) a).await (v.rest s) .poll := by
  rw [handOver_of_feed handler (.answered a) (by simp [Solo.setStage, feed])]
  simp only [Solo.poll, feed, setStage_setStage, deliver_setStage]
  rfl

end Poll

theorem runCycle_eq (key : SessionKey) (epoch : Nat) (w : World) :
    w.runCycle key epoch =
      ((w.moveCycle key fun s => s.prepare w.now epoch).sendPoll key epoch).takePoll key epoch :=
  rfl

/-- What the endpoint of the cycle answers is what the solo is answered, if it is its endpoint. -/
theorem Turns.asks (h : Turns s e mine w₀ own ses w v t c) (hmine : mine = true) :
    (w.endpoints.request c.endpoint.name).2 = (v.answer e, v.delay) := by
  rw [h.whose.1 hmine, ← h.shows.answer, ← h.shows.delay]
  rfl

/-- What a turn of a cycle comes to. -/
def Turns.Runs (s : ServiceConfig) (e : EndpointConfig) (mine : Bool) (w : World) (own : Option Nat)
    (v : Solo) (t : Time.Task Work) (c : Cycle) : Prop :=
  ∃ ses' v' stage next, Turns s e mine w own ses' (w.runCycle soloKey c.epoch) v' t { c with stage } ∧
    stage.due? = some next ∧ w.now < next ∧
    if mine then v.poll s e = v'.await next .poll else v' = v

/-- A cycle that has rested asks its endpoint, and takes an answer that comes at once. -/
theorem Turns.run_resting (h : Turns s e mine w own ses w v t c) {due : Nat}
    (rests : c.stage = .resting due) (reached : due ≤ w.now) (valid : 0 < s.pollPeriodMs.toNat) :
    Turns.Runs s e mine w own v t c := by
  obtain ⟨ses₁, h₁⟩ := h.prepare rests reached
  have world := runCycle_eq soloKey c.epoch w
  generalize (w.moveCycle soloKey fun s => s.prepare w.now c.epoch) = w₁ at h₁ world
  obtain ⟨⟨answer, delay⟩, asks⟩ : ∃ x, (w₁.endpoints.request c.endpoint.name).2 = x := ⟨_, rfl⟩
  obtain ⟨ses₂, h₂⟩ := h₁.send rfl asks
  rw [when_when, h₁.still.now] at h₂
  generalize w₁.sendPoll soloKey c.epoch = w₂ at h₂ world
  -- whose cycle it is: the endpoint's, which has a feed and is asked as the solo is, or another's
  have own' : mine = true → (∃ handler, v.feed = some (handler, .resting due)) ∧
      answer = v.answer e ∧ delay = v.delay ∧ v.now = w.now := by
    intro hmine
    obtain ⟨handler, feed, -⟩ := h.shows.feed h.cycle (h.whose.1 hmine)
    rw [h₁.asks hmine, hmine, Prod.mk.injEq] at asks
    exact ⟨⟨handler, rests ▸ feed⟩, asks.1.symm, asks.2.symm, h.clock hmine⟩
  unfold Turns.Runs
  rw [world]
  by_cases prompt : delay = 0
  · obtain ⟨ses₃, h₃⟩ := h₂.takePoll rfl (by rw [prompt, h₂.still.now]; exact Nat.le_refl _)
    rw [when_when, h₂.still.now] at h₃
    refine ⟨ses₃, _, _, _, h₃, rfl, by omega, ?_⟩
    cases mine with
    | false => rfl
    | true =>
      obtain ⟨⟨handler, feed⟩, rfl, rfl, clock⟩ := own' rfl
      rw [← clock]
      exact poll_of_prompt feed prompt _
  · rw [h₂.takePoll_early rfl (by rw [h₂.still.now]; omega)]
    refine ⟨ses₂, _, _, _, h₂, rfl, by omega, ?_⟩
    cases mine with
    | false => rfl
    | true =>
      obtain ⟨⟨handler, feed⟩, rfl, rfl, clock⟩ := own' rfl
      rw [← clock]
      exact poll_of_slow feed prompt

/-- A cycle that has waited for an answer takes it. -/
theorem Turns.run_requesting (h : Turns s e mine w own ses w v t c) {due : Nat} {a : Answer}
    (asked : c.stage = .requesting due a) (reached : due ≤ w.now) (valid : 0 < s.pollPeriodMs.toNat) :
    Turns.Runs s e mine w own v t c := by
  have cycle? := h.shows.orderly.cycle? h.cycle
  have prepared : (w.moveCycle soloKey fun s => s.prepare w.now c.epoch) = w :=
    h.shows.moveCycle_idle (by simp [Polling.Session.prepare, cycle?, asked])
  have sent : w.sendPoll soloKey c.epoch = w := by
    have there : w.cycle? soloKey c.epoch = some c := by
      unfold World.cycle?
      rw [h.shows.member?]
      exact cycle?
    unfold World.sendPoll
    rw [there]
    exact h.shows.moveCycle_idle (by simp [Polling.Session.send, cycle?, asked])
  obtain ⟨ses', h'⟩ := h.takePoll asked reached
  unfold Turns.Runs
  rw [runCycle_eq, prepared, sent]
  refine ⟨ses', _, _, _, h', rfl, by omega, ?_⟩
  cases mine with
  | false => rfl
  | true =>
    obtain ⟨handler, feed, -⟩ := h.shows.feed h.cycle (h.whose.1 rfl)
    rw [← h.clock rfl]
    exact poll_of_requesting (asked ▸ feed)

/-- A cycle has a turn when it is due. -/
theorem Turns.run (h : Turns s e mine w own ses w v t c) {due : Nat} (waits : c.stage.due? = some due)
    (reached : due ≤ w.now) (valid : 0 < s.pollPeriodMs.toNat) : Turns.Runs s e mine w own v t c := by
  cases stage : c.stage with
  | resting at' =>
    rw [stage] at waits
    obtain rfl := Option.some.inj waits
    exact h.run_resting stage reached valid
  | requesting at' a =>
    rw [stage] at waits
    obtain rfl := Option.some.inj waits
    exact h.run_requesting stage reached valid
  | prepared | answered =>
    rw [stage] at waits
    cases waits

theorem Shows.cycleDue? (h : Shows s e own ses w v) (epoch : Nat) :
    w.cycleDue? soloKey epoch = (ses.cycle? epoch).bind fun c => c.stage.due? := by
  unfold World.cycleDue? World.cycle?
  rw [h.member?]
  rfl

/-- A cycle that is not due has nothing to do for the endpoint, unless it waits for its instant. -/
theorem Shows.wants_idle (h : Shows s e own ses w v) {epoch : Nat}
    (rests : ∀ due, w.cycleDue? soloKey epoch = some due → w.now < due)
    (prompt : Agenda.waitingJob w.now (soloWants e own v.feed (.cycle soloKey epoch)) = none) :
    soloWants e own v.feed (.cycle soloKey epoch) = none := by
  rw [h.cycleDue?] at rests
  cases cycle? : ses.cycle? epoch with
  | none =>
    refine if_neg fun hown => ?_
    obtain ⟨-, -, -, x, hx, -, -, rfl, -⟩ := (hown ▸ h.tracks).exists_of_own
    rw [h.orderly.cycle? hx] at cycle?
    cases cycle?
  | some c =>
    obtain rfl := Session.epoch_of_cycle? cycle?
    rw [h.wants_cycle (Session.mem_of_cycle? cycle?)] at prompt ⊢
    rw [cycle?] at rests
    cases waits : c.stage.due? with
    | none => simp
    | some due =>
      have late := rests due waits
      rw [waits] at prompt
      split
      · next mine => simp [mine, Agenda.waitingJob, late] at prompt
      · rfl

/-- A cycle that is due. -/
theorem Shows.exists_of_reached (h : Shows s e own ses w v) {epoch : Nat}
    (reached : (w.cycleDue? soloKey epoch).any (fun due => decide (due ≤ w.now)) = true) :
    ∃ c ∈ ses.cycles, c.epoch = epoch ∧ ∃ due, c.stage.due? = some due ∧ due ≤ w.now := by
  rw [h.cycleDue?] at reached
  cases cycle? : ses.cycle? epoch with
  | none =>
    rw [cycle?] at reached
    cases reached
  | some c =>
    refine ⟨c, Session.mem_of_cycle? cycle?, Session.epoch_of_cycle? cycle?, ?_⟩
    rw [cycle?, Option.bind_some] at reached
    cases waits : c.stage.due? with
    | none =>
      rw [waits] at reached
      cases reached
    | some due => exact ⟨due, rfl, by simpa [waits] using reached⟩

/-- A cycle goes on as the cycle that it is, and has a timer for what it wants. -/
theorem turned_cycle {now n : Nat} {key : SessionKey} {need need' : Option (Nat × Job)}
    {due : Option Nat} (employed : Employed s ses (.cycle key n)) (late : ∀ x ∈ due, now < x)
    (set : ∀ x job, need' = some (x, job) → due = some x) :
    Turned s now ses (.cycle key n) need (.cycle key n) need' due.toList where
  employed := employed
  cycle := fun _ _ _ => rfl
  late := by simpa using late
  short := fun _ => by cases due <;> simp
  set := fun _ x job wanted => by simp [set x job wanted]
  bare := fun crowded => by cases crowded
  done := fun crowded => by cases crowded

/-- A turn of a cycle. -/
theorem Shows.turnCycle (h : Shows s e own ses w v) (ht : t ∈ w.agenda.tasks) {key : SessionKey}
    {epoch : Nat} (work : t.work = .cycle key epoch) (runs : w.agenda.current = some t.id)
    (valid : 0 < s.pollPeriodMs.toNat)
    (clock : Agenda.readyJob w.now (soloWants e own v.feed t.work) ≠ none → v.now = w.now)
    (prompt : Agenda.waitingJob w.now (soloWants e own v.feed t.work) = none) :
    ∃ w' due ses' v', w.turnCycle key epoch = (w', due) ∧ Shows s e own ses' w' v' ∧ Still w w' ∧
      v.Attends s e w.now (soloWants e own v.feed t.work) v' (soloWants e own v'.feed t.work) ∧
      Turned s w.now ses' t.work (soloWants e own v.feed t.work) t.work
        (soloWants e own v'.feed t.work) due.toList := by
  have employed := h.employed t ht
  rw [work] at employed clock prompt ⊢
  obtain ⟨rfl, -⟩ := id employed
  by_cases reached : (w.cycleDue? soloKey epoch).any (fun due => decide (due ≤ w.now)) = true
  · have turned : w.turnCycle soloKey epoch =
        (w.runCycle soloKey epoch, (w.runCycle soloKey epoch).cycleDue? soloKey epoch) := if_pos reached
    obtain ⟨c, hc, rfl, due, waits, reached⟩ := h.exists_of_reached reached
    rw [h.wants_cycle hc, waits] at clock ⊢
    have begun : Turns s e (decide (c.endpoint.name = e.name)) w own ses w v t c :=
      { shows := h
        still := ⟨rfl, rfl⟩
        task := ht
        work, runs
        cycle := hc
        whose := decide_eq_true_iff
        clock := fun mine => clock (by simp [of_decide_eq_true mine, Agenda.readyJob, reached]) }
    obtain ⟨ses', v', stage, next, h', waits', late, solo⟩ := begun.run waits reached valid
    have wants' := h'.shows.wants_cycle h'.cycle
    have employed' := h'.shows.employed t (h'.still.onward.tasks t ht)
    rw [work] at employed'
    refine ⟨_, _, ses', v', turned, h'.shows, h'.still, ?_, ?_⟩
    · rw [wants', waits']
      by_cases mine : c.endpoint.name = e.name
      · rw [decide_eq_true mine, if_pos rfl] at solo
        simp [mine, Solo.Attends, Agenda.readyJob, reached, Solo.perform, solo, Solo.await, late]
      · rw [decide_eq_false mine, if_neg Bool.false_ne_true] at solo
        simp [mine, Solo.Attends, Agenda.readyJob, solo]
    · rw [h'.cycleDue.trans waits', wants', waits']
      refine turned_cycle employed' (by simpa using late) fun x job wanted => ?_
      split at wanted
      · cases wanted
        rfl
      · cases wanted
  · have rests : ∀ due, w.cycleDue? soloKey epoch = some due → w.now < due := by
      intro due hdue
      simpa [hdue] using reached
    have nothing := h.wants_idle rests prompt
    refine ⟨w, none, ses, v, if_neg reached, h, ⟨rfl, rfl⟩, ?_, ?_⟩
    · simp [Solo.Attends, nothing, Agenda.readyJob]
    · exact turned_cycle employed (by simp) (by simp [nothing])

end TopicRelay.Simulation
