/-
What a session tells its listener. A poll is announced when its request is prepared, and its outcome is
reported once the request has been answered or refused; in between it is outstanding. A cycle that ends
in between leaves its poll without an outcome, and only a session that has been stopped has such cycles.
So whatever is announced is reported, outstanding or left behind, and every move keeps it so.
-/
import TopicRelay.Proofs.Polling.Schedule

namespace TopicRelay.Polling

open TopicRelay.Config TopicRelay.Content TopicRelay.Log

variable {η : Type} {s s' : Session η} {c : Cycle} {stage : Stage} {ds : List (Deed η)}
  {told : List PollEvent}

/-! ## Definitions -/

/-- Whether a poll has been announced whose outcome is yet to be reported. -/
def Stage.isAnnounced : Stage → Bool
  | .prepared | .requesting _ _ => true
  | .resting _ | .answered _ => false

/-- The poll event that the listener is told of, if it is told. -/
def CycleEffect.event? : CycleEffect η → Option PollEvent
  | .tell ev => some ev
  | _ => none

/-- The poll event that the listener is told of, if it is told. -/
def Deed.event? : Deed η → Option PollEvent
  | .operation _ => none
  | .cycle e => e.event?

/-- The responses of successful polls. -/
def responses (told : List PollEvent) : List Response :=
  told.filterMap fun
    | .response r => some r
    | _ => none

/-- The errors of polls that have failed. -/
def errors (told : List PollEvent) : List PollError :=
  told.filterMap fun
    | .failure e => some e
    | _ => none

/-- How many octets the bodies of responses have. -/
def octets : List Response → Nat
  | [] => 0
  | r :: rest => r.body.length + octets rest

/-! ## Totals -/

theorem countP_outcomes : ∀ told : List PollEvent,
    told.countP (· != .request) = (responses told).length + (errors told).length
  | [] => rfl
  | .request :: rest => countP_outcomes rest
  | .response r :: rest => by
    rw [List.countP_cons_of_pos rfl, countP_outcomes rest]
    exact Nat.add_right_comm _ _ 1
  | .failure e :: rest => by
    rw [List.countP_cons_of_pos rfl, countP_outcomes rest]
    rfl

/-- What the totals are after some events. -/
theorem Metrics.foldl_count (told : List PollEvent) (m : Metrics) : told.foldl Metrics.count m =
    { requests := m.requests + (told.count .request).toUInt64
      successes := m.successes + (responses told).length.toUInt64
      failures := m.failures + (errors told).length.toUInt64
      responseBytes := m.responseBytes + (octets (responses told)).toUInt64 } := by
  have grow (a : UInt64) (k n : Nat) :
      a + k.toUInt64 + n.toUInt64 = a + (k + n).toUInt64 := by
    rw [UInt64.add_assoc]
    exact congrArg (a + ·) (UInt64.ofNat_add k n).symm
  induction told generalizing m with
  | nil =>
    show m = Metrics.mk (m.requests + 0) (m.successes + 0) (m.failures + 0) (m.responseBytes + 0)
    simp only [UInt64.add_zero]
  | cons ev rest ih =>
    rw [List.foldl_cons, ih]
    cases ev with
    | request =>
      rw [List.count_cons_self, Nat.add_comm _ 1, ← grow]
      rfl
    | response r =>
      have more : (responses (.response r :: rest)).length = 1 + (responses rest).length :=
        Nat.add_comm _ 1
      rw [more, show octets (responses (.response r :: rest)) =
        r.body.length + octets (responses rest) from rfl, ← grow, ← grow]
      rfl
    | failure e =>
      have more : (errors (.failure e :: rest)).length = 1 + (errors rest).length :=
        Nat.add_comm _ 1
      rw [more, ← grow]
      rfl

namespace Session

/-- The epochs of the cycles whose polls are outstanding. -/
def announced (s : Session η) : List Nat :=
  (s.cycles.filter fun c => c.stage.isAnnounced).map fun c => c.epoch

/-- The polls that were outstanding and whose cycles have ended since. -/
def leaves (s s' : Session η) : List Nat :=
  s.announced.filter fun epoch => (s'.cycle? epoch).isNone

/-- The books of a session while its listener is told of some events. Polls are left behind only by a
session that has been stopped. -/
structure Accounts (s s' : Session η) (told : List PollEvent) : Prop where
  balance : s.announced.length + told.count .request =
    s'.announced.length + told.countP (· != .request) + (s.leaves s').length
  left : s.leaves s' ≠ [] → s.stopped = true

/-! ## Counting cycles -/

theorem length_announced (s : Session η) :
    s.announced.length = s.cycles.countP fun c => c.stage.isAnnounced := by
  rw [announced, List.length_map, List.countP_eq_length_filter]

theorem cycle?_isNone (s : Session η) (epoch : Nat) :
    (s.cycle? epoch).isNone = true ↔ ∀ c ∈ s.cycles, c.epoch ≠ epoch := by
  simp [cycle?, List.find?_eq_none]

theorem length_leaves (s s' : Session η) : (s.leaves s').length =
    s.cycles.countP fun c => c.stage.isAnnounced && (s'.cycle? c.epoch).isNone := by
  rw [leaves, announced, List.filter_map, List.length_map, List.filter_filter,
    List.countP_eq_length_filter]
  simp only [Function.comp_def, Bool.and_comm]

/-- A poll is not left behind as long as its cycle is there. -/
theorem leaves_eq_nil (h : ∀ c ∈ s.cycles, c.epoch ∈ s'.cycles.map fun c => c.epoch) :
    s.leaves s' = [] := by
  rw [leaves, List.filter_eq_nil_iff]
  intro epoch hepoch gone
  obtain ⟨c, hc, rfl⟩ := List.mem_map.1 hepoch
  obtain ⟨c', hc', same⟩ := List.mem_map.1 (h c (List.mem_filter.1 hc).1)
  exact (s'.cycle?_isNone c.epoch).1 gone c' hc' same

/-- A count over cycles is that of one of them and that of the others. -/
theorem Orderly.countP_cycles (h : s.Orderly) (hc : c ∈ s.cycles) (p : Cycle → Bool) :
    s.cycles.countP p =
      (p c).toNat + (s.cycles.filter fun x => x.epoch != c.epoch).countP p := by
  have own := filter_of_nodup_map h.cycleEpochs hc
  rw [List.countP_eq_countP_filter_add s.cycles p fun x => x.epoch == c.epoch, own,
    List.countP_singleton]
  cases p c <;> rfl

theorem Orderly.countP_setStage (h : s.Orderly) (hc : c ∈ s.cycles) (stage : Stage) :
    (s.setStage c.epoch stage).announced.length + c.stage.isAnnounced.toNat =
      s.announced.length + stage.isAnnounced.toNat := by
  rw [length_announced, length_announced, Session.setStage, List.countP_map,
    h.countP_cycles hc, h.countP_cycles hc fun c => c.stage.isAnnounced]
  have others : (s.cycles.filter fun x => x.epoch != c.epoch).countP
      ((fun x : Cycle => x.stage.isAnnounced) ∘
        fun x => if x.epoch == c.epoch then { x with stage } else x) =
      (s.cycles.filter fun x => x.epoch != c.epoch).countP fun x => x.stage.isAnnounced := by
    refine List.countP_congr fun x hx => ?_
    have apart : x.epoch ≠ c.epoch := by simpa using (List.mem_filter.1 hx).2
    simp [apart]
  rw [others, Function.comp_apply, if_pos (beq_self_eq_true c.epoch)]
  dsimp only
  omega

/-! ## Steps -/

/-- What neither tells the listener nor touches the outstanding polls keeps the books. -/
theorem accounts_of_kept (announced : s'.announced = s.announced)
    (epochs : ∀ c ∈ s.cycles, c.epoch ∈ s'.cycles.map fun c => c.epoch) : Accounts s s' [] := by
  have none := leaves_eq_nil epochs
  refine ⟨?_, fun left => absurd none left⟩
  rw [none, announced]
  rfl

theorem Accounts.refl (s : Session η) : Accounts s s [] :=
  accounts_of_kept rfl fun _ hc => List.mem_map_of_mem hc

/-- Cycles that begin have announced nothing. -/
theorem accounts_of_new (new : List Cycle) (cycles : s'.cycles = s.cycles ++ new)
    (resting : ∀ c ∈ new, c.stage.isAnnounced = false) : Accounts s s' [] := by
  refine accounts_of_kept ?_ fun c hc => ?_
  · have still : new.filter (fun c => c.stage.isAnnounced) = [] := by
      rw [List.filter_eq_nil_iff]
      intro c hc
      simp [resting c hc]
    rw [Session.announced, cycles, List.filter_append, still, List.append_nil]
    rfl
  · rw [cycles]
    exact List.mem_map_of_mem (List.mem_append_left _ hc)

theorem announced_stop (s : Session η) : s.stop.1.announced = s.announced := by
  simp only [announced, stop, List.filter_map, List.map_map, Function.comp_def]

theorem epochs_stop (s : Session η) :
    (s.stop.1.cycles.map fun c => c.epoch) = s.cycles.map fun c => c.epoch := by
  simp only [stop, List.map_map, Function.comp_def]

/-- A session may be stopped at once: its outstanding polls stay outstanding. -/
theorem Accounts.stop (h : Accounts s s' told) : Accounts s s'.stop.1 told := by
  have same : s.leaves s'.stop.1 = s.leaves s' := by
    refine List.filter_congr fun epoch _ => ?_
    have iff : (s'.stop.1.cycle? epoch).isNone = true ↔ (s'.cycle? epoch).isNone = true := by
      rw [cycle?_isNone, cycle?_isNone, ← List.forall_mem_map (P := fun e => e ≠ epoch), epochs_stop,
        List.forall_mem_map]
    exact Bool.eq_iff_iff.2 iff
  constructor
  · rw [announced_stop, same]
    exact h.balance
  · rw [same]
    exact h.left

/-- A cycle that goes on reports what it has announced: a step that leaves the announced stages tells
of one outcome, one that enters them tells of a request, and the others tell of nothing. -/
theorem Advance.reports {effects : List (CycleEffect η)} (advance : s.Advance c stage effects) :
    c.stage.isAnnounced.toNat + (effects.filterMap CycleEffect.event?).count .request =
      stage.isAnnounced.toNat + (effects.filterMap CycleEffect.event?).countP (· != .request) := by
  cases advance with
  | prepared rests _ => rw [rests]; rfl
  | skipped rests _ => rw [rests]; rfl
  | sent ready _ => rw [ready]; rfl
  | refused ready _ => rw [ready]; rfl
  | @received _ _ b asked =>
    rw [asked]
    cases b <;> rfl
  | delivered holds _ => rw [holds]; rfl
  | discarded holds _ => rw [holds]; rfl

theorem accounts_setStage (h : s.Orderly) (hc : c ∈ s.cycles) {effects : List (CycleEffect η)}
    (advance : s.Advance c stage effects) :
    Accounts s (s.setStage c.epoch stage) (effects.filterMap CycleEffect.event?) := by
  have none : s.leaves (s.setStage c.epoch stage) = [] := by
    refine leaves_eq_nil fun x hx => ?_
    rw [map_setStage _ fun _ _ => rfl]
    exact List.mem_map_of_mem hx
  refine ⟨?_, fun left => absurd none left⟩
  have stages := h.countP_setStage hc stage
  have events := advance.reports
  rw [none, List.length_nil]
  omega

/-- A cycle that is dropped leaves its poll behind if it is outstanding. -/
theorem accounts_drop (h : s.Orderly) (hc : c ∈ s.cycles) (cancelled : c.cancelled = true) :
    Accounts s { s with cycles := s.cycles.filter fun x => x.epoch != c.epoch } [] := by
  have ended : s.stopped = true := by
    rw [← h.cancelled c hc]
    exact cancelled
  refine ⟨?_, fun _ => ended⟩
  rw [length_announced, length_announced, length_leaves, h.countP_cycles hc,
    h.countP_cycles hc fun x => x.stage.isAnnounced && _]
  have own : (cycle? { s with cycles := s.cycles.filter fun x => x.epoch != c.epoch } c.epoch).isNone
      = true := by
    rw [cycle?_isNone]
    intro x hx
    simpa using (List.mem_filter.1 hx).2
  have others : ((s.cycles.filter fun x => x.epoch != c.epoch).countP fun x => x.stage.isAnnounced &&
      (cycle? { s with cycles := s.cycles.filter fun x => x.epoch != c.epoch } x.epoch).isNone) = 0 := by
    rw [List.countP_eq_zero]
    intro x hx
    rw [Bool.and_eq_true, cycle?_isNone]
    rintro ⟨-, gone⟩
    exact gone x hx rfl
  rw [own, others, Bool.and_true]
  simp only [List.count_nil, List.countP_nil]
  omega

/-- Operations are no poll events. -/
theorem events_operations (effects : List SessionEffect) :
    (effects.map .operation : List (Deed η)).filterMap Deed.event? = [] := by
  rw [List.filterMap_map, List.filterMap_eq_nil_iff]
  exact fun _ _ => rfl

/-- Every move keeps the books. -/
theorem Step.accounts (step : s.Step s' ds) (h : s.Orderly) :
    Accounts s s' (ds.filterMap Deed.event?) := by
  cases step with
  | idle => exact .refl s
  | ignored _ => exact .refl s
  | tracked _ => exact .refl s
  | started now live =>
    rw [events_operations]
    refine accounts_of_new (s.dormant.map (newCycle now)) rfl fun c hc => ?_
    obtain ⟨slot, -, rfl⟩ := List.mem_map.1 hc
    rfl
  | added now e handler live _ =>
    rw [events_operations]
    refine accounts_of_new (if s.running then [newCycle now (s.slotFor e handler)] else []) ?_ ?_
    · dsimp only
      split
      · rfl
      · rw [List.append_nil]
    · intro c hc
      split at hc
      · obtain rfl := List.mem_singleton.1 hc
        rfl
      · cases hc
  | stopped =>
    rw [events_operations]
    exact (Accounts.refl s).stop
  | advanced there advance =>
    rw [List.filterMap_map]
    exact accounts_setStage h (mem_of_cycle? there) advance
  | @dropped c effects there cancelled abandons =>
    have mute : (effects.map Deed.cycle).filterMap Deed.event? = [] := by
      rw [abandons]
      split <;> rfl
    rw [mute]
    exact accounts_drop h (mem_of_cycle? there) cancelled

/-- As long as a session has not been stopped, each outstanding poll is that of a tracked endpoint. -/
theorem Orderly.announced_le (h : s.Orderly) (live : s.stopped = false) :
    s.announced.length ≤ s.endpoints.length := by
  have enrolled := congrArg List.length (h.enrolled live)
  have few : s.announced.length ≤ s.cycles.length := by
    rw [length_announced]
    exact List.countP_le_length
  rw [List.length_map] at enrolled
  rw [endpoints, List.length_map]
  split at enrolled
  · rw [List.length_map] at enrolled
    omega
  · rw [List.length_nil] at enrolled
    omega

end Session

end TopicRelay.Polling
