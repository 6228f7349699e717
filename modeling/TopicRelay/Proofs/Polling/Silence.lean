/-
Silence after the end. Once a session has been stopped it tracks no endpoint, sends no request, hands
no result to a handler and begins no cycle, whatever moves follow and wherever its cycles were when it
was stopped. Starting, adding and stopping it again leave it as it is.
-/
import TopicRelay.Proofs.Polling.Moves

namespace TopicRelay.Polling

open TopicRelay.Config TopicRelay.Content TopicRelay.Log

variable {η ε : Type}

/-- Whether something sends a request, hands over a result or begins a cycle. -/
def Deed.acts : Deed η → Bool
  | .operation (.spawn _ _) => true
  | .cycle (.send _) => true
  | .cycle (.deliver _ _ _) => true
  | _ => false

namespace Session

/-- A session that has come to its end. -/
structure Silent (s : Session η) : Prop where
  ended : s.stopped = true
  still : s.running = false
  empty : s.slots = []
  cancelled : ∀ c ∈ s.cycles, c.cancelled = true

theorem silent_stop (s : Session η) : s.stop.1.Silent := by
  refine ⟨rfl, rfl, rfl, ?_⟩
  intro c hc
  obtain ⟨x, -, rfl⟩ := List.mem_map.1 hc
  rfl

theorem mem_of_cycle? {s : Session η} {epoch : Nat} {c : Cycle} (h : s.cycle? epoch = some c) :
    c ∈ s.cycles :=
  List.mem_of_find?_eq_some h

theorem mem_setStage {s : Session η} {epoch : Nat} {stage : Stage} {c : Cycle}
    (h : c ∈ (s.setStage epoch stage).cycles) :
    ∃ x ∈ s.cycles, c = x ∨ x.epoch = epoch ∧ c = { x with stage } := by
  obtain ⟨x, hx, rfl⟩ := List.mem_map.1 h
  refine ⟨x, hx, ?_⟩
  by_cases he : x.epoch = epoch
  · right; simp [he]
  · left; simp [he]

theorem Silent.setStage {s : Session η} (h : s.Silent) (epoch : Nat) (stage : Stage) :
    (s.setStage epoch stage).Silent := by
  refine ⟨h.ended, h.still, h.empty, ?_⟩
  intro c hc
  obtain ⟨x, hx, rfl | ⟨-, rfl⟩⟩ := mem_setStage hc
  · exact h.cancelled _ hx
  · exact h.cancelled x hx

theorem Silent.receiver? {s : Session η} (h : s.Silent) (c : Cycle) : s.receiver? c = none := by
  unfold Session.receiver?
  simp [h.still]

/-- A cycle that was cancelled sends nothing, and nobody takes its results. -/
theorem Advance.silent {s : Session η} {c : Cycle} {stage : Stage} {effects : List (CycleEffect η)}
    (advance : s.Advance c stage effects) (h : s.Silent) (hc : c ∈ s.cycles) :
    ∀ e ∈ effects, (Deed.cycle e).acts = false := by
  cases advance with
  | sent _ live => rw [h.cancelled c hc] at live; cases live
  | delivered _ taken => rw [h.receiver? c] at taken; cases taken
  | prepared | skipped | refused | received | discarded => simp [Deed.acts]

theorem Step.silent {s s' : Session η} {ds : List (Deed η)} (step : s.Step s' ds) (h : s.Silent) :
    s'.Silent ∧ ∀ d ∈ ds, d.acts = false := by
  cases step with
  | idle => exact ⟨h, List.forall_mem_nil _⟩
  | ignored _ => exact ⟨h, by simp [Deed.acts]⟩
  | tracked _ => exact ⟨h, by simp [Deed.acts]⟩
  | started _ live => rw [h.ended] at live; cases live
  | added _ _ _ live _ => rw [h.ended] at live; cases live
  | stopped => exact ⟨silent_stop s, by simp [stop, h.empty, h.still]⟩
  | advanced there advance =>
    refine ⟨h.setStage _ _, ?_⟩
    intro d hd
    obtain ⟨e, he, rfl⟩ := List.mem_map.1 hd
    exact advance.silent h (mem_of_cycle? there) e he
  | dropped there cancelled abandons =>
    refine ⟨⟨h.ended, h.still, h.empty, fun c hc => h.cancelled c (List.mem_filter.1 hc).1⟩, ?_⟩
    intro d hd
    rw [abandons] at hd
    split at hd <;> simp at hd
    rw [hd]; rfl

theorem run_silent {s : Session η} (h : s.Silent) (moves : List (Move ε η)) :
    (s.run moves).1.Silent ∧ ∀ d ∈ (s.run moves).2, d.acts = false := by
  have := run_induction (P := fun (t : Session η) ds => t.Silent ∧ ∀ d ∈ ds, d.acts = false)
    (fun t t' ds new step ⟨ht, hds⟩ => by
      obtain ⟨ht', hnew⟩ := step.silent ht
      refine ⟨ht', fun d hd => ?_⟩
      rcases List.mem_append.1 hd with hd | hd
      · exact hds d hd
      · exact hnew d hd)
    moves s [] ⟨h, List.forall_mem_nil _⟩
  simpa using this

/-! ## Operations on a session that has come to its end -/

theorem Silent.start {s : Session η} (h : s.Silent) (now : Nat) :
    s.start now = (s, false, [.log (s.ignoredEntry "start")]) := by
  unfold Session.start
  rw [if_pos h.ended]

theorem Silent.add {s : Session η} (h : s.Silent) (create : EndpointConfig → Except ε η) (now : Nat)
    (e : EndpointConfig) :
    s.add create now e = (s, .ok (), [.log (s.ignoredEntry "add_endpoint")]) := by
  unfold Session.add
  rw [if_pos h.ended]

theorem Silent.stop {s : Session η} (h : s.Silent) : s.stop = (s, []) := by
  have hcycles : s.cycles.map (fun c => { c with cancelled := true }) = s.cycles := by
    conv_rhs => rw [← List.map_id s.cycles]
    refine List.map_congr_left fun c hc => ?_
    have := h.cancelled c hc
    cases c
    simpa using this.symm
  obtain ⟨service, running, stopped, nextEpoch, slots, cycles⟩ := s
  obtain ⟨rfl, rfl, rfl, -⟩ := h
  simpa [Session.stop] using hcycles

/-- Once a session has been stopped, nothing comes of it any more. Whatever it was doing, and
whatever moves follow: it tracks no endpoint, none of its cycles sends a request or hands a result to
a handler, no cycle begins; starting it tells `false` and adding an endpoint succeeds, whatever makes
the handlers, and neither changes the session; and stopping it again changes nothing and brings
nothing about. -/
theorem silent_after_stop (s : Session η) (moves : List (Move ε η)) :
    let c := s.stop.1.run moves
    c.1.endpoints = [] ∧
    (∀ d ∈ c.2, d.acts = false) ∧
    (∀ now, c.1.start now = (c.1, false, [.log (c.1.ignoredEntry "start")])) ∧
    (∀ (create : EndpointConfig → Except ε η) now e,
      c.1.add create now e = (c.1, .ok (), [.log (c.1.ignoredEntry "add_endpoint")])) ∧
    c.1.stop = (c.1, []) := by
  intro c
  obtain ⟨h, quiet⟩ := run_silent (silent_stop s) moves
  exact ⟨by simp [endpoints, h.empty, c], quiet, h.start, h.add, h.stop⟩

end Session

end TopicRelay.Polling
