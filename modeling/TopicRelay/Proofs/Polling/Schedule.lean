/-
One schedule for each endpoint. In every state that moves can lead to, the tracked endpoints have
distinct names and distinct epochs below the next one, and a session that has not been stopped has
exactly one live cycle for each of them once it runs, and none before. So a cycle that rests always
gets its request, and an answer always has a handler that takes it.
-/
import TopicRelay.Proofs.Polling.Silence

namespace TopicRelay.Polling

open TopicRelay.Config TopicRelay.Content TopicRelay.Log

variable {η ε : Type} {s s' : Session η} {ds : List (Deed η)} {c : Cycle} {slot : Slot η}

/-! ## Lists with distinct keys -/

section Keys

variable {α β : Type} [BEq β] [LawfulBEq β] {key : α → β} {l : List α} {x : α}

theorem find?_of_nodup_map (hn : (l.map key).Nodup) (hx : x ∈ l) :
    l.find? (fun y => key y == key x) = some x := by
  rcases hf : l.find? (fun y => key y == key x) with _ | y
  · rw [List.find?_eq_none] at hf
    simpa using hf x hx
  · have hy := List.mem_of_find?_eq_some hf
    have he : key y = key x := by simpa using List.find?_some hf
    rw [List.inj_on_of_nodup_map hn hy hx he]

theorem filter_of_nodup_map (hn : (l.map key).Nodup) (hx : x ∈ l) :
    l.filter (fun y => key y == key x) = [x] := by
  induction l with
  | nil => cases hx
  | cons y rest ih =>
    rw [List.map_cons, List.nodup_cons] at hn
    obtain ⟨hy, hn⟩ := hn
    rcases List.mem_cons.1 hx with rfl | hx
    · have hrest : rest.filter (fun y => key y == key x) = [] := by
        rw [List.filter_eq_nil_iff]
        intro z hz he
        exact hy (List.mem_map.2 ⟨z, hz, by simpa using he⟩)
      simp [hrest]
    · have hne : key y ≠ key x := fun he => hy (he ▸ List.mem_map_of_mem hx)
      rw [List.filter_cons_of_neg (by simpa using hne)]
      exact ih hn hx

omit [BEq β] [LawfulBEq β] in
theorem nodup_map_concat (hn : (l.map key).Nodup) (hx : key x ∉ l.map key) :
    ((l ++ [x]).map key).Nodup := by
  rw [List.map_append, List.map_singleton, ← List.concat_eq_append]
  exact hn.concat hx

end Keys

namespace Session

/-- The invariant of the slots and cycles of a session. -/
structure Orderly (s : Session η) : Prop where
  names : (s.slots.map fun slot => slot.config.name).Nodup
  epochs : (s.slots.map fun slot => slot.epoch).Nodup
  below : ∀ slot ∈ s.slots, slot.epoch < s.nextEpoch
  scheduled : ∀ slot ∈ s.slots, slot.scheduled = s.running
  ended : s.stopped = true → s.running = false ∧ s.slots = []
  cancelled : ∀ c ∈ s.cycles, c.cancelled = s.stopped
  enrolled : s.stopped = false →
    s.cycles.map Cycle.registration = if s.running then s.slots.map Slot.registration else []
  cycleNames : (s.cycles.map fun c => c.endpoint.name).Nodup
  cycleEpochs : (s.cycles.map fun c => c.epoch).Nodup

theorem fresh_orderly (service : ServiceConfig) : (fresh service : Session η).Orderly := by
  constructor <;> simp [fresh]

/-! ## Slots and cycles -/

theorem Orderly.slot? (h : s.Orderly) (hs : slot ∈ s.slots) :
    s.slot? slot.config.name = some slot :=
  find?_of_nodup_map h.names hs

theorem Orderly.cycle? (h : s.Orderly) (hc : c ∈ s.cycles) : s.cycle? c.epoch = some c :=
  find?_of_nodup_map h.cycleEpochs hc

theorem Orderly.slot_of_cycle (h : s.Orderly) (live : s.stopped = false) (hc : c ∈ s.cycles) :
    s.running = true ∧ ∃ slot ∈ s.slots, slot.config = c.endpoint ∧ slot.epoch = c.epoch := by
  have hmem : c.registration ∈ s.cycles.map Cycle.registration := List.mem_map_of_mem hc
  rw [h.enrolled live] at hmem
  split at hmem
  · next running =>
    obtain ⟨slot, hs, he⟩ := List.mem_map.1 hmem
    simp only [Slot.registration, Cycle.registration, Prod.mk.injEq] at he
    exact ⟨running, slot, hs, he.2, he.1⟩
  · cases hmem

theorem Orderly.cycle_of_slot (h : s.Orderly) (running : s.running = true) (hs : slot ∈ s.slots) :
    ∃ c ∈ s.cycles, c.endpoint = slot.config ∧ c.epoch = slot.epoch := by
  have live : s.stopped = false := by
    by_contra hn
    have := (h.ended (by simpa using hn)).1
    rw [running] at this
    cases this
  have hmem : slot.registration ∈ s.slots.map Slot.registration := List.mem_map_of_mem hs
  have henrolled := h.enrolled live
  rw [if_pos running] at henrolled
  rw [← henrolled] at hmem
  obtain ⟨c, hc, he⟩ := List.mem_map.1 hmem
  simp only [Slot.registration, Cycle.registration, Prod.mk.injEq] at he
  exact ⟨c, hc, he.2, he.1⟩

theorem Orderly.polled? (h : s.Orderly) (live : s.stopped = false) (hc : c ∈ s.cycles) :
    ∃ slot ∈ s.slots, slot.config = c.endpoint ∧ s.polled? c = some slot := by
  obtain ⟨running, slot, hs, hconfig, hepoch⟩ := h.slot_of_cycle live hc
  refine ⟨slot, hs, hconfig, ?_⟩
  have hslot := h.slot? hs
  rw [hconfig] at hslot
  simp [Session.polled?, running, hslot, Option.filter, hepoch, h.scheduled slot hs]

theorem Orderly.receiver? (h : s.Orderly) (live : s.stopped = false) (hc : c ∈ s.cycles) :
    ∃ slot ∈ s.slots, slot.config = c.endpoint ∧ s.receiver? c = some slot.handler := by
  obtain ⟨running, slot, hs, hconfig, hepoch⟩ := h.slot_of_cycle live hc
  refine ⟨slot, hs, hconfig, ?_⟩
  have hslot := h.slot? hs
  rw [hconfig] at hslot
  simp [Session.receiver?, running, hslot, Option.filter, hepoch]

/-! ## Steps -/

theorem map_setStage {β : Type} (f : Cycle → β) (hf : ∀ c stage, f { c with stage } = f c)
    (epoch : Nat) (stage : Stage) (s : Session η) :
    (s.setStage epoch stage).cycles.map f = s.cycles.map f := by
  unfold setStage
  rw [List.map_map]
  refine List.map_congr_left fun c _ => ?_
  show f (if c.epoch == epoch then { c with stage } else c) = f c
  split
  · exact hf c stage
  · rfl

theorem Orderly.setStage (h : s.Orderly) (epoch : Nat) (stage : Stage) :
    (s.setStage epoch stage).Orderly where
  names := h.names
  epochs := h.epochs
  below := h.below
  scheduled := h.scheduled
  ended := h.ended
  cancelled := by
    intro c hc
    obtain ⟨x, hx, rfl | ⟨-, rfl⟩⟩ := mem_setStage hc
    · exact h.cancelled _ hx
    · exact h.cancelled x hx
  enrolled := by
    intro live
    rw [map_setStage _ fun _ _ => rfl]
    exact h.enrolled live
  cycleNames := by
    rw [map_setStage _ fun _ _ => rfl]
    exact h.cycleNames
  cycleEpochs := by
    rw [map_setStage _ fun _ _ => rfl]
    exact h.cycleEpochs

theorem Orderly.stop (h : s.Orderly) : s.stop.1.Orderly where
  names := List.nodup_nil
  epochs := List.nodup_nil
  below := List.forall_mem_nil _
  scheduled := List.forall_mem_nil _
  ended := fun _ => ⟨rfl, rfl⟩
  cancelled := (silent_stop s).cancelled
  enrolled := fun live => by cases live
  cycleNames := by
    show ((s.cycles.map _).map _).Nodup
    rw [List.map_map]
    exact h.cycleNames
  cycleEpochs := by
    show ((s.cycles.map _).map _).Nodup
    rw [List.map_map]
    exact h.cycleEpochs

/-- The cycles that a start leaves: one for each slot, whether or not the session ran before. -/
theorem Orderly.cycles_start (h : s.Orderly) (live : s.stopped = false) (now : Nat) :
    (s.cycles ++ s.dormant.map (newCycle now)).map Cycle.registration =
      s.slots.map Slot.registration := by
  have henrolled := h.enrolled live
  by_cases running : s.running = true
  · have hdormant : s.dormant = [] := by
      unfold dormant
      rw [List.filter_eq_nil_iff]
      intro slot hs
      simp [h.scheduled slot hs, running]
    rw [if_pos running] at henrolled
    simpa [hdormant] using henrolled
  · have hdormant : s.dormant = s.slots := by
      unfold dormant
      rw [List.filter_eq_self]
      intro slot hs
      simp [h.scheduled slot hs, running]
    rw [if_neg running] at henrolled
    simp only [List.map_append, henrolled, hdormant, List.map_map, List.nil_append]
    rfl

theorem distinct_of_enrolled {cycles : List Cycle} {slots : List (Slot η)}
    (h : cycles.map Cycle.registration = slots.map Slot.registration)
    (names : (slots.map fun slot => slot.config.name).Nodup)
    (epochs : (slots.map fun slot => slot.epoch).Nodup) :
    (cycles.map fun c => c.endpoint.name).Nodup ∧ (cycles.map fun c => c.epoch).Nodup := by
  have hnames : cycles.map (fun c => c.endpoint.name) = slots.map fun slot => slot.config.name := by
    have := congrArg (List.map fun r => r.2.name) h
    simpa [Cycle.registration, Slot.registration, Function.comp_def] using this
  have hepochs : cycles.map (fun c => c.epoch) = slots.map fun slot => slot.epoch := by
    have := congrArg (List.map Prod.fst) h
    simpa [Cycle.registration, Slot.registration, Function.comp_def] using this
  rw [hnames, hepochs]
  exact ⟨names, epochs⟩

/-- The cycles of a session that has not been stopped are in order if they are enrolled as the slots
are. -/
theorem orderly_of_enrolled (live : s.stopped = false)
    (names : (s.slots.map fun slot => slot.config.name).Nodup)
    (epochs : (s.slots.map fun slot => slot.epoch).Nodup)
    (below : ∀ slot ∈ s.slots, slot.epoch < s.nextEpoch)
    (scheduled : ∀ slot ∈ s.slots, slot.scheduled = s.running)
    (uncancelled : ∀ c ∈ s.cycles, c.cancelled = false)
    (enrolled : s.cycles.map Cycle.registration =
      if s.running then s.slots.map Slot.registration else []) : s.Orderly := by
  have hdistinct : (s.cycles.map fun c => c.endpoint.name).Nodup ∧
      (s.cycles.map fun c => c.epoch).Nodup := by
    by_cases running : s.running = true
    · rw [if_pos running] at enrolled
      exact distinct_of_enrolled enrolled names epochs
    · rw [if_neg running, List.map_eq_nil_iff] at enrolled
      rw [enrolled]
      exact ⟨List.nodup_nil, List.nodup_nil⟩
  refine ⟨names, epochs, below, scheduled, ?_, ?_, fun _ => enrolled, hdistinct.1, hdistinct.2⟩
  · intro ended
    rw [live] at ended
    cases ended
  · intro c hc
    rw [uncancelled c hc, live]

theorem Orderly.uncancelled (h : s.Orderly) (live : s.stopped = false) :
    ∀ c ∈ s.cycles, c.cancelled = false :=
  fun c hc => (h.cancelled c hc).trans live

theorem Orderly.start (h : s.Orderly) (live : s.stopped = false) (now : Nat) :
    Orderly { s with
      running := true
      slots := s.slots.map fun slot => { slot with scheduled := true }
      cycles := s.cycles ++ s.dormant.map (newCycle now) } := by
  refine orderly_of_enrolled live ?_ ?_ ?_ ?_ ?_ ?_
  · rw [List.map_map]
    exact h.names
  · rw [List.map_map]
    exact h.epochs
  · simpa using h.below
  · simp
  · intro c hc
    rcases List.mem_append.1 hc with hc | hc
    · exact h.uncancelled live c hc
    · obtain ⟨x, -, rfl⟩ := List.mem_map.1 hc
      rfl
  · rw [h.cycles_start live, if_pos rfl, List.map_map]
    rfl

theorem Orderly.add (h : s.Orderly) (live : s.stopped = false) (now : Nat) (e : EndpointConfig)
    (handler : η) (new : s.slot? e.name = none) :
    Orderly { s with
      nextEpoch := s.nextEpoch + 1
      slots := s.slots ++ [s.slotFor e handler]
      cycles := if s.running then s.cycles ++ [newCycle now (s.slotFor e handler)] else s.cycles } := by
  have hname : e.name ∉ s.slots.map fun slot => slot.config.name := by
    intro hmem
    obtain ⟨slot, hs, he⟩ := List.mem_map.1 hmem
    have := h.slot? hs
    rw [he, new] at this
    cases this
  have hepoch : s.nextEpoch ∉ s.slots.map fun slot => slot.epoch := by
    intro hmem
    obtain ⟨slot, hs, he⟩ := List.mem_map.1 hmem
    have := h.below slot hs
    omega
  have henrolled := h.enrolled live
  refine orderly_of_enrolled live (nodup_map_concat h.names hname) (nodup_map_concat h.epochs hepoch)
    ?_ ?_ ?_ ?_
  · intro slot hs
    rcases List.mem_append.1 hs with hs | hs
    · exact Nat.lt_succ_of_lt (h.below slot hs)
    · obtain rfl := List.mem_singleton.1 hs
      exact Nat.lt_succ_self _
  · intro slot hs
    rcases List.mem_append.1 hs with hs | hs
    · exact h.scheduled slot hs
    · obtain rfl := List.mem_singleton.1 hs
      rfl
  · intro c hc
    dsimp only at hc
    split at hc
    · rcases List.mem_append.1 hc with hc | hc
      · exact h.uncancelled live c hc
      · obtain rfl := List.mem_singleton.1 hc
        rfl
    · exact h.uncancelled live c hc
  · by_cases running : s.running = true
    · rw [if_pos running] at henrolled
      simp [running, henrolled, newCycle, Cycle.registration, Slot.registration]
    · rw [if_neg running] at henrolled
      simp [running, henrolled]

theorem Step.orderly (step : s.Step s' ds) (h : s.Orderly) : s'.Orderly := by
  cases step with
  | idle => exact h
  | ignored _ => exact h
  | tracked _ => exact h
  | started now live => exact h.start live now
  | added now e handler live new => exact h.add live now e handler new
  | stopped => exact h.stop
  | advanced _ _ => exact h.setStage _ _
  | dropped there cancelled _ =>
    have ended : s.stopped = true := by
      rw [← h.cancelled _ (mem_of_cycle? there)]
      exact cancelled
    refine ⟨h.names, h.epochs, h.below, h.scheduled, h.ended, ?_, ?_, ?_, ?_⟩
    · exact fun c hc => h.cancelled c (List.mem_filter.1 hc).1
    · intro live
      rw [ended] at live
      cases live
    · exact h.cycleNames.sublist (List.filter_sublist.map _)
    · exact h.cycleEpochs.sublist (List.filter_sublist.map _)

end Session

end TopicRelay.Polling
