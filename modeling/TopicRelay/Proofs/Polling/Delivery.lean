/-
One delivery for each request. Along every run of moves, the requests sent to an endpoint are those
that have ended and at most one that has not; and as long as the session has not been stopped, the
answers that came from an endpoint are, in order, those that its handler has been given and at most
one that waits for the session. No execution goes without its request before the session is stopped,
and no result is discarded.

Each of these is an account that every single step keeps; a run keeps it by induction.
-/
import TopicRelay.Proofs.Polling.Schedule

namespace TopicRelay.Polling

open TopicRelay.Config TopicRelay.Content TopicRelay.Log

variable {η ε : Type} {s s' : Session η} {ds new : List (Deed η)} {c : Cycle} {stage : Stage}
  {effects : List (CycleEffect η)} {name : String}

/-! ## What happened to an endpoint -/

namespace Deed

/-- The cycles that were begun, each with its epoch and its endpoint. -/
def spawned (ds : List (Deed η)) : List (Nat × EndpointConfig) :=
  ds.filterMap fun
    | .operation (.spawn epoch e) => some (epoch, e)
    | _ => none

/-- How many requests were sent to an endpoint. -/
def sends (name : String) (ds : List (Deed η)) : Nat :=
  ds.countP fun
    | .cycle (.send c) => c.endpoint.name == name
    | _ => false

/-- How many requests to an endpoint have ended. -/
def ends (name : String) (ds : List (Deed η)) : Nat :=
  ds.countP fun
    | .cycle (.settle c _) => c.endpoint.name == name
    | .cycle (.abandon c) => c.endpoint.name == name
    | _ => false

/-- The answers with which requests to an endpoint have ended, in order. -/
def answers (name : String) (ds : List (Deed η)) : List Answer :=
  ds.filterMap fun
    | .cycle (.settle c a) => if c.endpoint.name == name then some a else none
    | _ => none

/-- The results of an endpoint that were handed to handlers, in order. -/
def deliveries (name : String) (ds : List (Deed η)) : List (η × Answer) :=
  ds.filterMap fun
    | .cycle (.deliver c h a) => if c.endpoint.name == name then some (h, a) else none
    | _ => none

/-- The log entries. -/
def entries (ds : List (Deed η)) : List Entry :=
  ds.filterMap fun
    | .operation (.log e) => some e
    | .cycle (.log e) => some e
    | _ => none

end Deed

/-- Whether a request is under way. -/
def Stage.isRequesting : Stage → Bool
  | .requesting _ _ => true
  | _ => false

/-- The answer that waits for the session. -/
def Stage.answer? : Stage → Option Answer
  | .answered a => some a
  | _ => none

namespace Session

/-- The cycles of an endpoint. -/
def cyclesOf (name : String) (s : Session η) : List Cycle :=
  s.cycles.filter fun c => c.endpoint.name == name

/-- How many requests to an endpoint are under way. -/
def outstanding (name : String) (s : Session η) : Nat :=
  (s.cyclesOf name).countP fun c => c.stage.isRequesting

/-- The answers of an endpoint that wait for the session. -/
def held (name : String) (s : Session η) : List Answer :=
  (s.cyclesOf name).filterMap fun c => c.stage.answer?

/-! ## The cycles of an endpoint -/

theorem Orderly.cyclesOf (h : s.Orderly) (hc : c ∈ s.cycles) :
    s.cyclesOf c.endpoint.name = [c] :=
  filter_of_nodup_map h.cycleNames hc

theorem Orderly.epoch_ne (h : s.Orderly) (hc : c ∈ s.cycles) (hname : c.endpoint.name ≠ name)
    {x : Cycle} (hx : x ∈ s.cyclesOf name) : x.epoch ≠ c.epoch := by
  obtain ⟨hx, hxname⟩ := List.mem_filter.1 hx
  intro he
  obtain rfl := List.inj_on_of_nodup_map h.cycleEpochs hx hc he
  exact hname (by simpa using hxname)

theorem Orderly.cyclesOf_setStage (h : s.Orderly) (hc : c ∈ s.cycles) (stage : Stage)
    (name : String) :
    (s.setStage c.epoch stage).cyclesOf name =
      if c.endpoint.name = name then [{ c with stage }] else s.cyclesOf name := by
  have hfilter : (s.setStage c.epoch stage).cyclesOf name =
      (s.cyclesOf name).map fun x => if x.epoch == c.epoch then { x with stage } else x := by
    unfold Session.cyclesOf Session.setStage
    rw [List.filter_map]
    congr 2
    funext x
    simp only [Function.comp]
    split <;> rfl
  rw [hfilter]
  split
  · next hname =>
    subst hname
    rw [h.cyclesOf hc]
    simp
  · next hname =>
    conv_rhs => rw [← List.map_id (s.cyclesOf name)]
    refine List.map_congr_left fun x hx => ?_
    simp [h.epoch_ne hc hname hx]

/-! ## Accounts of one step -/

theorem Advance.requests (advance : s.Advance c stage effects) (h : s.Orderly) (hc : c ∈ s.cycles)
    (name : String) :
    Deed.sends name (effects.map .cycle) + s.outstanding name =
      Deed.ends name (effects.map .cycle) + (s.setStage c.epoch stage).outstanding name := by
  unfold outstanding
  rw [h.cyclesOf_setStage hc]
  by_cases hname : c.endpoint.name = name
  · subst hname
    rw [h.cyclesOf hc]
    cases advance <;> simp [Deed.sends, Deed.ends, Stage.isRequesting, *]
  · cases advance <;> simp [Deed.sends, Deed.ends, hname]

theorem Advance.results (advance : s.Advance c stage effects) (h : s.Orderly)
    (live : s.stopped = false) (hc : c ∈ s.cycles) (name : String) :
    s.held name ++ Deed.answers name (effects.map .cycle) =
      (Deed.deliveries name (effects.map .cycle)).map (·.2) ++
        (s.setStage c.epoch stage).held name := by
  obtain ⟨slot, -, -, taken⟩ := h.receiver? live hc
  have uncancelled := h.uncancelled live c hc
  unfold held
  rw [h.cyclesOf_setStage hc]
  by_cases hname : c.endpoint.name = name
  · subst hname
    rw [h.cyclesOf hc]
    cases advance <;> simp_all [Deed.answers, Deed.deliveries, Stage.answer?]
  · cases advance <;> simp [Deed.answers, Deed.deliveries, hname]

theorem requests_operations (name : String) (effects : List SessionEffect) :
    Deed.sends name (effects.map .operation : List (Deed η)) = 0 ∧
      Deed.ends name (effects.map .operation : List (Deed η)) = 0 ∧
      Deed.answers name (effects.map .operation : List (Deed η)) = [] ∧
      Deed.deliveries name (effects.map .operation : List (Deed η)) = [] := by
  simp [Deed.sends, Deed.ends, Deed.answers, Deed.deliveries, List.filterMap_map, Function.comp_def]

theorem requests_append {more : List Cycle} (name : String) (hs : s'.cycles = s.cycles ++ more)
    (rest : ∀ c ∈ more, c.stage.isRequesting = false ∧ c.stage.answer? = none) :
    s'.outstanding name = s.outstanding name ∧ s'.held name = s.held name := by
  unfold outstanding held cyclesOf
  rw [hs, List.filter_append, List.countP_append, List.filterMap_append]
  constructor
  · rw [Nat.add_eq_left, List.countP_eq_zero]
    intro c hc
    simp [(rest c (List.mem_filter.1 hc).1).1]
  · rw [List.append_right_eq_self, List.filterMap_eq_nil_iff]
    exact fun c hc => (rest c (List.mem_filter.1 hc).1).2

theorem outstanding_stop (name : String) (s : Session η) :
    s.stop.1.outstanding name = s.outstanding name := by
  unfold outstanding cyclesOf Session.stop
  simp [List.filter_map, List.countP_map, Function.comp_def]

/-- Where an operation changes the cycles by nothing but adding some that rest, no request begins or
ends, and no answer comes or goes. -/
theorem accounts_operation {more : List Cycle} (name : String) (effects : List SessionEffect)
    (hs : s'.cycles = s.cycles ++ more)
    (rest : ∀ c ∈ more, c.stage.isRequesting = false ∧ c.stage.answer? = none) :
    Deed.sends name (effects.map .operation : List (Deed η)) + s.outstanding name =
      Deed.ends name (effects.map .operation : List (Deed η)) + s'.outstanding name ∧
    s.held name ++ Deed.answers name (effects.map .operation : List (Deed η)) =
      (Deed.deliveries name (effects.map .operation : List (Deed η))).map (·.2) ++
        s'.held name := by
  obtain ⟨hsends, hends, hanswers, hdeliveries⟩ := requests_operations (η := η) name effects
  obtain ⟨houtstanding, hheld⟩ := requests_append name hs rest
  rw [hsends, hends, hanswers, hdeliveries, houtstanding, hheld]
  simp

theorem rests_newCycle (now : Nat) (slots : List (Slot η)) :
    ∀ c ∈ slots.map (newCycle now), c.stage.isRequesting = false ∧ c.stage.answer? = none := by
  intro c hc
  obtain ⟨slot, -, rfl⟩ := List.mem_map.1 hc
  exact ⟨rfl, rfl⟩

theorem cycles_add (now : Nat) (slot : Slot η) (s : Session η) :
    (if s.running then s.cycles ++ [newCycle now slot] else s.cycles) =
      s.cycles ++ (if s.running then [slot] else []).map (newCycle now) := by
  split <;> simp

theorem Orderly.cyclesOf_drop (h : s.Orderly) (hc : c ∈ s.cycles) (name : String) :
    ({ s with cycles := s.cycles.filter fun x => x.epoch != c.epoch } : Session η).cyclesOf name =
      if c.endpoint.name = name then [] else s.cyclesOf name := by
  have hswap : ({ s with cycles := s.cycles.filter fun x => x.epoch != c.epoch } : Session η).cyclesOf
      name = (s.cyclesOf name).filter fun x => x.epoch != c.epoch := by
    unfold Session.cyclesOf
    simp only [List.filter_filter, Bool.and_comm]
  rw [hswap]
  split
  · next hname =>
    subst hname
    rw [h.cyclesOf hc]
    simp
  · next hname =>
    rw [List.filter_eq_self]
    intro x hx
    simpa using h.epoch_ne hc hname hx

/-- The requests sent to an endpoint in a step are those that end in it and those by which more of
them are under way after it. -/
theorem Step.requests (step : s.Step s' new) (h : s.Orderly) (name : String) :
    Deed.sends name new + s.outstanding name = Deed.ends name new + s'.outstanding name := by
  cases step with
  | idle => rfl
  | ignored | tracked => rfl
  | started now _ => exact (accounts_operation name _ rfl (rests_newCycle now _)).1
  | added now e handler _ _ =>
    exact (accounts_operation name _ (cycles_add now _ s) (rests_newCycle now _)).1
  | stopped =>
    obtain ⟨hsends, hends, -, -⟩ := requests_operations (η := η) name s.stop.2
    rw [hsends, hends, outstanding_stop]
  | advanced there advance => exact advance.requests h (mem_of_cycle? there) name
  | @dropped c effects there cancelled abandons =>
    have hc := mem_of_cycle? there
    unfold outstanding
    rw [h.cyclesOf_drop hc, abandons]
    by_cases hname : c.endpoint.name = name
    · subst hname
      rw [h.cyclesOf hc]
      cases hstage : c.stage <;> simp [Deed.sends, Deed.ends, Stage.isRequesting, hstage]
    · cases hstage : c.stage <;> simp [Deed.sends, Deed.ends, hname]

/-- The end is for good. -/
theorem Step.live (step : s.Step s' new) (live : s'.stopped = false) : s.stopped = false := by
  cases step with
  | stopped => cases live
  | idle | ignored | tracked | started | added | advanced | dropped => exact live

/-- As long as a session lives, each answer of a step is handed over in it or waits after it, in
order. -/
theorem Step.results (step : s.Step s' new) (h : s.Orderly) (live : s'.stopped = false)
    (name : String) :
    s.held name ++ Deed.answers name new =
      (Deed.deliveries name new).map (·.2) ++ s'.held name := by
  have before := step.live live
  cases step with
  | idle => simp [Deed.answers, Deed.deliveries]
  | ignored | tracked => simp [Deed.answers, Deed.deliveries]
  | started now _ => exact (accounts_operation name _ rfl (rests_newCycle now _)).2
  | added now e handler _ _ =>
    exact (accounts_operation name _ (cycles_add now _ s) (rests_newCycle now _)).2
  | stopped => cases live
  | advanced there advance => exact advance.results h before (mem_of_cycle? there) name
  -- only a cancelled cycle is dropped, and a live session has none
  | dropped there cancelled _ =>
    rw [h.uncancelled before _ (mem_of_cycle? there)] at cancelled
    cases cancelled

/-- As long as a session lives, its cycles are those that were begun. -/
theorem Step.spawned (step : s.Step s' new) (h : s.Orderly) (live : s'.stopped = false) :
    s.cycles.map Cycle.registration ++ Deed.spawned new = s'.cycles.map Cycle.registration := by
  have before := step.live live
  cases step with
  | idle => simp [Deed.spawned]
  | ignored | tracked => simp [Deed.spawned]
  | started now _ =>
    -- a start begins a cycle for each dormant slot, which in a session that runs are none
    have hspawned : Deed.spawned (s.startEffects.map .operation : List (Deed η)) =
        s.dormant.map Slot.registration := by
      unfold Deed.spawned startEffects
      induction s.dormant with
      | nil => simp
      | cons slot rest ih => simpa [Slot.registration] using ih
    rw [hspawned, List.map_append, List.map_map]
    rfl
  | added now e handler _ _ =>
    have hspawned : Deed.spawned ((s.addEffects e).map .operation : List (Deed η)) =
        if s.running then [(s.nextEpoch, e)] else [] := by
      unfold Deed.spawned addEffects
      split <;> simp
    rw [hspawned, cycles_add, List.map_append, List.map_map]
    split <;> rfl
  | stopped => cases live
  | advanced there advance =>
    rw [map_setStage _ fun _ _ => rfl]
    cases advance <;> simp [Deed.spawned]
  | dropped there cancelled _ =>
    rw [h.uncancelled before _ (mem_of_cycle? there)] at cancelled
    cases cancelled

theorem Step.keeps (step : s.Step s' new) (live : s'.stopped = false) {slot : Slot η}
    (hs : slot ∈ s.slots) :
    ∃ x ∈ s'.slots, x.registration = slot.registration ∧ x.handler = slot.handler := by
  cases step with
  | idle => exact ⟨slot, hs, rfl, rfl⟩
  | ignored | tracked => exact ⟨slot, hs, rfl, rfl⟩
  | started now _ => exact ⟨_, List.mem_map_of_mem hs, rfl, rfl⟩
  | added now e handler _ _ => exact ⟨slot, List.mem_append_left _ hs, rfl, rfl⟩
  | stopped => cases live
  | advanced _ _ => exact ⟨slot, hs, rfl, rfl⟩
  | dropped _ _ _ => exact ⟨slot, hs, rfl, rfl⟩

theorem slot_of_receiver? {handler : η} (taken : s.receiver? c = some handler) :
    ∃ slot ∈ s.slots, slot.config.name = c.endpoint.name ∧ slot.handler = handler := by
  unfold Session.receiver? at taken
  split at taken
  · obtain ⟨slot, hslot, rfl⟩ := Option.map_eq_some_iff.1 taken
    obtain ⟨there, -⟩ := Option.filter_eq_some_iff.1 hslot
    refine ⟨slot, List.mem_of_find?_eq_some there, ?_, rfl⟩
    simpa using List.find?_some there
  · cases taken

/-- What is handed over goes to the handler of the endpoint. -/
theorem Step.receives (step : s.Step s' new) {d : η × Answer}
    (hd : d ∈ Deed.deliveries name new) :
    ∃ slot ∈ s.slots, slot.config.name = name ∧ slot.handler = d.1 := by
  cases step with
  | idle => simp [Deed.deliveries] at hd
  | ignored | tracked => simp [Deed.deliveries] at hd
  | started => simp [(requests_operations (η := η) name _).2.2.2] at hd
  | added => simp [(requests_operations (η := η) name _).2.2.2] at hd
  | stopped => simp [(requests_operations (η := η) name _).2.2.2] at hd
  | advanced there advance =>
    cases advance with
    | delivered _ taken =>
      obtain ⟨slot, hs, hname, hhandler⟩ := slot_of_receiver? taken
      simp only [Deed.deliveries, List.map_cons, List.map_nil, List.filterMap_cons,
        List.filterMap_nil] at hd
      split at hd
      · cases hd
      · next hc =>
        split at hc
        · next he =>
          cases hc
          obtain rfl := List.mem_singleton.1 hd
          exact ⟨slot, hs, hname.trans (by simpa using he), hhandler⟩
        · cases hc
    | prepared | skipped | sent | refused | received | discarded => simp [Deed.deliveries] at hd
  | dropped there cancelled abandons =>
    rw [abandons] at hd
    split at hd <;> simp [Deed.deliveries] at hd

/-- What a log entry tells of discarded results: they were discarded because the session has been
stopped, if at all. -/
def Explained (s : Session η) (e : Entry) : Prop :=
  (e.event = "poll_result_discarded" → s.stopped = true) ∧
    ("reason", Field.text "endpoint_replaced") ∉ e.fields

theorem mem_entries {e : Entry} (ds : List (Deed η)) :
    e ∈ Deed.entries ds ↔ .operation (.log e) ∈ ds ∨ .cycle (.log e) ∈ ds := by
  unfold Deed.entries
  rw [List.mem_filterMap]
  constructor
  · rintro ⟨d, hd, he⟩
    split at he <;> cases he
    · exact .inl hd
    · exact .inr hd
  · rintro (hd | hd)
    · exact ⟨_, hd, rfl⟩
    · exact ⟨_, hd, rfl⟩

theorem explained_operation {effects : List SessionEffect}
    (h : ∀ e, .log e ∈ effects →
      e.event ≠ "poll_result_discarded" ∧ ("reason", Field.text "endpoint_replaced") ∉ e.fields) :
    ∀ e ∈ Deed.entries (effects.map .operation : List (Deed η)), s.Explained e := by
  intro e he
  have hmem : SessionEffect.log e ∈ effects := by simpa [mem_entries] using he
  exact ⟨fun hevent => absurd hevent (h e hmem).1, (h e hmem).2⟩

/-- A result is discarded if the session has been stopped, and for no other reason. -/
theorem Advance.explained (advance : s.Advance c stage effects) (h : s.Orderly)
    (hc : c ∈ s.cycles) :
    ∀ e ∈ Deed.entries (effects.map .cycle), (s.setStage c.epoch stage).Explained e := by
  cases advance with
  | discarded _ untaken =>
    have ended : s.stopped = true := by
      by_contra hn
      obtain ⟨slot, -, -, taken⟩ := h.receiver? (by simpa using hn) hc
      rw [untaken] at taken
      cases taken
    simp [Deed.entries, Explained, discardedEntry, entry, Session.setStage, ended, h.ended ended]
  | received =>
    simp only [Deed.entries, answerEntry]
    split <;> simp [Explained, entry]
  | prepared | skipped | sent | refused | delivered =>
    simp [Deed.entries, Explained, requestEntry, answerEntry, entry]

theorem Step.explained (step : s.Step s' new) (h : s.Orderly) :
    ∀ e ∈ Deed.entries new, s'.Explained e := by
  cases step with
  | idle => simp [Deed.entries]
  | ignored => exact explained_operation (by simp [ignoredEntry, entry])
  | tracked =>
    refine explained_operation ?_
    simp only [trackedEntry]
    split <;> simp [entry]
  | started now _ =>
    refine explained_operation fun e he => ?_
    simp only [startEffects, List.mem_cons, List.mem_flatMap, SessionEffect.log.injEq] at he
    obtain rfl | ⟨slot, -, rfl | he⟩ := he
    · simp [entry]
    · simp [scheduleEntry, entry]
    · simp at he
  | added now e handler _ _ =>
    refine explained_operation fun e he => ?_
    rcases List.mem_append.1 he with he | he
    · split at he
      · obtain rfl : e = _ := by simpa using he
        simp [scheduleEntry, entry]
      · cases he
    · obtain rfl : e = _ := by simpa using he
      simp [addedEntry, entry]
  | stopped =>
    refine explained_operation fun e he => ?_
    rcases List.mem_append.1 he with he | he
    · simp at he
    · split at he
      · obtain rfl : e = _ := by simpa using he
        simp [entry]
      · cases he
  | advanced there advance => exact advance.explained h (mem_of_cycle? there)
  | dropped there cancelled abandons =>
    rw [abandons]
    split <;> simp [Deed.entries]

/-! ## Accounts of a run -/

/-- What a run has brought about, set against the state that it led to. -/
structure Account (s : Session η) (ds : List (Deed η)) : Prop where
  orderly : s.Orderly
  requests : ∀ name, Deed.sends name ds = Deed.ends name ds + s.outstanding name
  results : s.stopped = false → ∀ name,
    Deed.answers name ds = (Deed.deliveries name ds).map (·.2) ++ s.held name
  spawned : s.stopped = false → Deed.spawned ds = s.cycles.map Cycle.registration
  receives : s.stopped = false → ∀ name, ∀ d ∈ Deed.deliveries name ds,
    ∃ slot ∈ s.slots, slot.config.name = name ∧ slot.handler = d.1
  explained : ∀ e ∈ Deed.entries ds, s.Explained e

theorem fresh_account (service : ServiceConfig) : Account (fresh service : Session η) [] where
  orderly := fresh_orderly service
  requests := fun _ => rfl
  results := fun _ _ => rfl
  spawned := fun _ => rfl
  receives := fun _ _ => List.forall_mem_nil _
  explained := List.forall_mem_nil _

theorem Step.account (step : s.Step s' new) (h : s.Account ds) : s'.Account (ds ++ new) where
  orderly := step.orderly h.orderly
  requests := by
    intro name
    have before := h.requests name
    have during := step.requests h.orderly name
    simp only [Deed.sends, Deed.ends, List.countP_append] at before during ⊢
    omega
  results := by
    intro live name
    have before := h.results (step.live live) name
    have during := step.results h.orderly live name
    simp only [Deed.answers, Deed.deliveries, List.filterMap_append, List.map_append] at *
    rw [before, List.append_assoc, during, List.append_assoc]
  spawned := by
    intro live
    rw [← step.spawned h.orderly live, ← h.spawned (step.live live)]
    exact List.filterMap_append
  receives := by
    intro live name d hd
    rw [Deed.deliveries, List.filterMap_append] at hd
    have there : ∃ slot ∈ s.slots, slot.config.name = name ∧ slot.handler = d.1 := by
      rcases List.mem_append.1 hd with hd | hd
      · exact h.receives (step.live live) name d hd
      · exact step.receives hd
    obtain ⟨slot, hs, hname, hhandler⟩ := there
    -- slots outlive the step, with their handlers
    obtain ⟨x, hx, hreg, hkept⟩ := step.keeps live hs
    simp only [Slot.registration, Prod.mk.injEq] at hreg
    exact ⟨x, hx, by rw [hreg.2, hname], by rw [hkept, hhandler]⟩
  explained := by
    intro e he
    rw [Deed.entries, List.filterMap_append] at he
    rcases List.mem_append.1 he with he | he
    · obtain ⟨hevent, hreason⟩ := h.explained e he
      refine ⟨fun discarded => ?_, hreason⟩
      by_contra hn
      have live := step.live (by simpa using hn)
      rw [hevent discarded] at live
      cases live
    · exact step.explained h.orderly e he

theorem run_account (service : ServiceConfig) (moves : List (Move ε η)) :
    Account ((fresh service).run moves).1 ((fresh service : Session η).run moves).2 :=
  run_induction (fun _ _ _ _ step h => step.account h) moves _ [] (fresh_account service)

/-! ## The course of a cycle -/

/-- The next step of a cycle, once it is due, goes on with its execution: the request is sent, its
answer is taken as it comes, and the handler of the endpoint is given it. -/
def Proceeds (s : Session η) (c : Cycle) : Prop :=
  match c.stage with
  | .resting due => ∀ now, due ≤ now →
    s.prepare now c.epoch =
      (s.setStage c.epoch .prepared, [.log (s.requestEntry c.endpoint), .tell .request])
  | .prepared => ∀ due a,
    s.send due a c.epoch = (s.setStage c.epoch (.requesting due a), [.send c])
  | .requesting due a => ∀ now, due ≤ now →
    s.receive now c.epoch =
      (s.setStage c.epoch (.answered a),
        [.settle c a, .log (s.answerEntry c.endpoint a), .tell (answerEvent a)])
  | .answered a => ∃ slot ∈ s.slots, slot.config = c.endpoint ∧ ∀ now,
    s.conclude now c.epoch =
      (s.setStage c.epoch (.resting (now + s.period)), [.deliver c slot.handler a])

theorem Orderly.proceeds (h : s.Orderly) (live : s.stopped = false) (hc : c ∈ s.cycles) :
    s.Proceeds c := by
  have there := h.cycle? hc
  have uncancelled := h.uncancelled live c hc
  unfold Proceeds
  split
  · next due rests =>
    intro now hdue
    obtain ⟨slot, -, hconfig, wanted⟩ := h.polled? live hc
    simp [prepare, there, rests, wanted, hconfig, Nat.not_lt.2 hdue]
  · next ready =>
    intro due a
    simp [send, there, ready, uncancelled]
  · next due a asked =>
    intro now hdue
    simp [receive, there, asked, uncancelled, Nat.not_lt.2 hdue, answer]
  · next a holds =>
    obtain ⟨slot, hs, hconfig, taken⟩ := h.receiver? live hc
    refine ⟨slot, hs, hconfig, fun now => ?_⟩
    simp [conclude, there, holds, taken]

/-- An endpoint has one cycle at most, which is never in two stages. -/
theorem Orderly.outstanding_held (h : s.Orderly) (name : String) :
    s.outstanding name + (s.held name).length ≤ 1 := by
  unfold outstanding held
  by_cases hname : ∃ c ∈ s.cycles, c.endpoint.name = name
  · obtain ⟨c, hc, rfl⟩ := hname
    rw [h.cyclesOf hc]
    cases hstage : c.stage <;> simp [hstage, Stage.isRequesting, Stage.answer?]
  · have hnone : s.cyclesOf name = [] := by
      unfold Session.cyclesOf
      rw [List.filter_eq_nil_iff]
      intro c hc he
      exact hname ⟨c, hc, by simpa using he⟩
    simp [hnone]

theorem Orderly.live_of_slot (h : s.Orderly) {slot : Slot η} (hs : slot ∈ s.slots) :
    s.stopped = false := by
  by_contra hn
  rw [(h.ended (by simpa using hn)).2] at hs
  cases hs

theorem Account.spawned_slot (h : s.Account ds) {slot : Slot η} (hs : slot ∈ s.slots) :
    (Deed.spawned ds).filter (fun r => r.2.name == slot.config.name) =
      if s.running then [slot.registration] else [] := by
  have live := h.orderly.live_of_slot hs
  rw [h.spawned live, h.orderly.enrolled live]
  split
  · rw [List.filter_map]
    have := filter_of_nodup_map h.orderly.names hs
    simpa [Function.comp_def, Slot.registration] using congrArg (List.map Slot.registration) this
  · rfl

theorem Orderly.cycle_iff (h : s.Orderly) {slot : Slot η} (hs : slot ∈ s.slots) :
    (∃ c ∈ s.cycles, c.registration = slot.registration ∧ c.cancelled = false) ↔
      s.running = true := by
  have live := h.live_of_slot hs
  constructor
  · rintro ⟨c, hc, -, -⟩
    exact (h.slot_of_cycle live hc).1
  · intro running
    obtain ⟨c, hc, hendpoint, hepoch⟩ := h.cycle_of_slot running hs
    refine ⟨c, hc, ?_, h.uncancelled live c hc⟩
    rw [Cycle.registration, Slot.registration, hendpoint, hepoch]

theorem Account.receives_slot (h : s.Account ds) {slot : Slot η} (hs : slot ∈ s.slots) :
    ∀ d ∈ Deed.deliveries slot.config.name ds, d.1 = slot.handler := by
  intro d hd
  obtain ⟨x, hx, hname, hhandler⟩ := h.receives (h.orderly.live_of_slot hs) _ d hd
  obtain rfl := List.inj_on_of_nodup_map h.orderly.names hx hs hname
  exact hhandler.symm

/-- One schedule and one delivery. In every state that moves can lead a session to:

* a tracked endpoint has a cycle exactly while the session runs, and then it is the only one that was
  ever begun for a name; epochs are distinct and below the next one;
* of the requests sent to an endpoint at most one has not ended;
* as long as the session has not been stopped, no execution goes without its request, and the answers
  that ended requests are, in order, those handed over and at most one that waits; all go to the
  handler of the endpoint, and none is discarded;
* no result is ever discarded because its endpoint was replaced. -/
theorem scheduled_and_delivered_once (service : ServiceConfig) (moves : List (Move ε η)) :
    let c := (fresh service : Session η).run moves
    (∀ slot ∈ c.1.slots,
      ((∃ x ∈ c.1.cycles, x.registration = slot.registration ∧ x.cancelled = false) ↔
        c.1.running = true) ∧
      (Deed.spawned c.2).filter (fun r => r.2.name == slot.config.name) =
        if c.1.running then [slot.registration] else []) ∧
    (c.1.slots.map fun slot => slot.epoch).Nodup ∧
    (∀ slot ∈ c.1.slots, slot.epoch < c.1.nextEpoch) ∧
    (∀ name, Deed.sends name c.2 = Deed.ends name c.2 + c.1.outstanding name ∧
      c.1.outstanding name ≤ 1) ∧
    (c.1.stopped = false →
      (∀ x ∈ c.1.cycles, c.1.Proceeds x) ∧
      (∀ name,
        Deed.answers name c.2 = (Deed.deliveries name c.2).map (·.2) ++ c.1.held name ∧
        (c.1.held name).length ≤ 1) ∧
      (∀ slot ∈ c.1.slots, ∀ d ∈ Deed.deliveries slot.config.name c.2, d.1 = slot.handler) ∧
      ∀ e ∈ Deed.entries c.2, e.event ≠ "poll_result_discarded") ∧
    ∀ e ∈ Deed.entries c.2, ("reason", Field.text "endpoint_replaced") ∉ e.fields := by
  intro c
  have account : c.1.Account c.2 := run_account service moves
  have orderly := account.orderly
  refine ⟨fun slot hs => ⟨orderly.cycle_iff hs, account.spawned_slot hs⟩, orderly.epochs,
    orderly.below, fun name => ⟨account.requests name, ?_⟩, fun live => ⟨?_, ?_, ?_, ?_⟩,
    fun e he => (account.explained e he).2⟩
  · have := orderly.outstanding_held name
    omega
  · exact fun x hx => orderly.proceeds live hx
  · intro name
    have := orderly.outstanding_held name
    exact ⟨account.results live name, by omega⟩
  · exact fun slot hs => account.receives_slot hs
  · intro e he discarded
    rw [(account.explained e he).1 discarded] at live
    cases live

/-- An endpoint that is added while the session runs, and answers after 500 ms. -/
example :
    let moves : List (Move Unit String) :=
      [.start 0, .add (fun _ => .ok "handler") 0 { name := "a", url := "/a", topicPath := "a" },
        .prepare 0 0, .send 500 (.ok { status := 200 }) 0, .receive 499 0, .receive 500 0,
        .conclude 500 0]
    let c := (fresh { name := "s", host := "s.test", topicPathRoot := "s" }).run moves
    Deed.deliveries "a" c.2 = [("handler", .ok { status := 200 })] ∧ c.1.outstanding "a" = 0 := by
  decide +kernel

end Session

end TopicRelay.Polling
