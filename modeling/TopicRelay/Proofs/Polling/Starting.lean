/-
When a session starts makes no difference to what it tracks. A session laid to sleep is the session as
it would be if it had never been started: it tracks the same endpoints, and none of them has a cycle.
Starts and the steps of cycles do not show in it, and an endpoint is added to it just as to the session
itself; so two runs in which the same endpoints are added, in the same order, come to the same
endpoints, epochs and handlers. In a session that runs, each of these has one cycle.
-/
import TopicRelay.Proofs.Polling.Delivery

namespace TopicRelay.Polling

open TopicRelay.Config TopicRelay.Content TopicRelay.Log

variable {η ε : Type} {s s' : Session η} {name : String}

/-- What a move asks a session to track, whenever it does. -/
def Move.asked? : Move ε η → Option (Move ε η)
  | .add create _ e => some (.add create 0 e)
  | _ => none

/-- The endpoint of a name that a move has tracked if none of that name is, with its handler. -/
def Move.accepted? (name : String) : Move ε η → Option (EndpointConfig × η)
  | .add create _ e =>
    if e.name == name then
      match create e with
      | .ok handler => some (e, handler)
      | .error _ => none
    else none
  | _ => none

/-- What a slot tracks. -/
def Slot.tracked (slot : Slot η) : EndpointConfig × η :=
  (slot.config, slot.handler)

theorem Move.asked?_cases (mv : Move ε η) :
    mv.asked? = none ∨ ∃ create now e, mv = .add create now e := by
  cases mv with
  | add create now e => exact Or.inr ⟨create, now, e, rfl⟩
  | _ => exact Or.inl rfl

namespace Session

/-- The result of an addition. -/
def result? (s : Session η) : Move ε η → Option (Except ε Unit)
  | .add create now e => some (s.add create now e).2.1
  | _ => none

/-- The results of the additions of a run, in order. -/
def results (s : Session η) : List (Move ε η) → List (Except ε Unit)
  | [] => []
  | mv :: rest => (s.result? mv).toList ++ (s.take mv).1.results rest

/-- The session as if it had never been started. -/
def asleep (s : Session η) : Session η :=
  { s with
    running := false
    slots := s.slots.map fun slot => { slot with scheduled := false }
    cycles := [] }

/-! ## Sleep -/

theorem run_cons (s : Session η) (mv : Move ε η) (rest : List (Move ε η)) :
    (s.run (mv :: rest)).1 = ((s.take mv).1.run rest).1 :=
  rfl

theorem result?_of_quiet {mv : Move ε η} (quiet : mv.asked? = none) : s.result? mv = none := by
  cases mv with
  | add create now e => cases quiet
  | _ => rfl

theorem slot?_asleep (s : Session η) (name : String) :
    s.asleep.slot? name = (s.slot? name).map fun slot => { slot with scheduled := false } := by
  unfold slot? asleep
  rw [List.find?_map]
  rfl

theorem asleep_start (now : Nat) (s : Session η) : (s.start now).1.asleep = s.asleep := by
  unfold start
  split
  · rfl
  · simp [asleep, scheduleAll]

/-- The steps of cycles change no slot. -/
theorem asleep_step {mv : Move ε η} (quiet : mv.asked? = none) (lasting : mv ≠ .stop) :
    (s.take mv).1.asleep = s.asleep := by
  cases mv with
  | start now => exact asleep_start now s
  | add create now e => cases quiet
  | stop => exact absurd rfl lasting
  | prepare now epoch =>
    simp only [take, prepare]
    repeat' split
    all_goals rfl
  | send due a epoch =>
    simp only [take, send, answer]
    repeat' split
    all_goals rfl
  | receive now epoch =>
    simp only [take, receive, answer]
    repeat' split
    all_goals rfl
  | conclude now epoch =>
    simp only [take, conclude]
    repeat' split
    all_goals rfl
  | drop epoch =>
    simp only [take, dropCycle]
    repeat' split
    all_goals rfl

/-- An endpoint is added to a session that sleeps as it is to the session itself. -/
theorem asleep_add (create : EndpointConfig → Except ε η) (now now' : Nat) (e : EndpointConfig)
    (s : Session η) :
    (s.add create now e).1.asleep = (s.asleep.add create now' e).1 ∧
      (s.add create now e).2.1 = (s.asleep.add create now' e).2.1 := by
  have hstopped : s.asleep.stopped = s.stopped := rfl
  unfold add
  rw [slot?_asleep, hstopped]
  by_cases ended : s.stopped = true
  · simp [ended]
  · rcases s.slot? e.name with _ | slot
    · rcases create e with err | handler <;> simp [ended, asleep]
    · simp [ended]

/-- A run tracks what its additions ask for. -/
theorem asleep_run : ∀ (moves : List (Move ε η)) (s : Session η), .stop ∉ moves →
    (s.run moves).1.asleep = (s.asleep.run (moves.filterMap Move.asked?)).1 ∧
      s.results moves = s.asleep.results (moves.filterMap Move.asked?)
  | [], s, _ => ⟨rfl, rfl⟩
  | mv :: rest, s, lasting => by
    have hmv : mv ≠ .stop := fun h => lasting (h ▸ List.mem_cons_self)
    have hrest : .stop ∉ rest := fun h => lasting (List.mem_cons_of_mem _ h)
    obtain ⟨hrun, hresults⟩ := asleep_run rest (s.take mv).1 hrest
    rcases mv.asked?_cases with quiet | ⟨create, now, e, rfl⟩
    · -- the move does not show
      have hstep := asleep_step (s := s) quiet hmv
      rw [hstep] at hrun hresults
      rw [List.filterMap_cons_none quiet, run_cons, hrun]
      refine ⟨rfl, ?_⟩
      rw [results, result?_of_quiet quiet, hresults]
      rfl
    · obtain ⟨hadd, hresult⟩ := asleep_add create now 0 e s
      have hstep : (s.take (.add create now e)).1.asleep = (s.asleep.take (.add create 0 e)).1 := hadd
      rw [hstep] at hrun hresults
      have asked : (Move.add create now e).asked? = some (.add create 0 e) := rfl
      rw [List.filterMap_cons_some asked, run_cons, run_cons, hrun]
      refine ⟨rfl, ?_⟩
      rw [results, results, hresults]
      simp only [result?, hresult]

/-! ## Runs of a session that is not stopped -/

theorem stopped_take {mv : Move ε η} (lasting : mv ≠ .stop) :
    (s.take mv).1.stopped = s.stopped := by
  rcases mv.asked?_cases with quiet | ⟨create, now, e, rfl⟩
  · have hsleep : (s.take mv).1.asleep = s.asleep := asleep_step quiet lasting
    exact (congrArg Session.stopped hsleep :)
  · simp only [take, add]
    repeat' split
    all_goals rfl

theorem stopped_run : ∀ (moves : List (Move ε η)) (s : Session η), .stop ∉ moves →
    (s.run moves).1.stopped = s.stopped
  | [], _, _ => rfl
  | mv :: rest, s, lasting => by
    rw [List.mem_cons, not_or] at lasting
    rw [run_cons, stopped_run rest _ lasting.2]
    exact stopped_take (Ne.symm lasting.1)

theorem Step.running {ds : List (Deed η)} (step : s.Step s' ds) (live : s'.stopped = false)
    (running : s.running = true) : s'.running = true := by
  cases step with
  | stopped => cases live
  | started => rfl
  | idle | ignored | tracked | added | advanced | dropped => exact running

theorem running_run : ∀ (moves : List (Move ε η)) (s : Session η), s.stopped = false →
    .stop ∉ moves → (s.running = true ∨ ∃ now, .start now ∈ moves) →
    (s.run moves).1.running = true
  | [], s, _, _, begun => by
    rcases begun with running | ⟨now, there⟩
    · exact running
    · cases there
  | mv :: rest, s, live, lasting, begun => by
    rw [List.mem_cons, not_or] at lasting
    have live' : (s.take mv).1.stopped = false := (stopped_take (Ne.symm lasting.1)).trans live
    rw [run_cons]
    refine running_run rest _ live' lasting.2 ?_
    rcases begun with running | ⟨now, there⟩
    · exact Or.inl ((s.step_take mv).running live' running)
    · rcases List.mem_cons.1 there with rfl | there
      · left
        simp [take, start, live, scheduleAll]
      · exact Or.inr ⟨now, there⟩

theorem Orderly.run (h : s.Orderly) (moves : List (Move ε η)) : (s.run moves).1.Orderly :=
  run_induction (P := fun s _ => s.Orderly) (fun _ _ _ _ step h => step.orderly h) moves s [] h

/-- The cycles at the end of a run are those there were and those that were begun. -/
theorem Orderly.spawned_run (h : s.Orderly) (moves : List (Move ε η))
    (live : (s.run moves).1.stopped = false) :
    s.cycles.map Cycle.registration ++ Deed.spawned (s.run moves).2 =
      (s.run moves).1.cycles.map Cycle.registration := by
  have account := run_induction
    (P := fun t ds => t.Orderly ∧ (t.stopped = false →
      s.cycles.map Cycle.registration ++ Deed.spawned ds = t.cycles.map Cycle.registration))
    (fun t t' ds new step ht => by
      refine ⟨step.orderly ht.1, fun live => ?_⟩
      have hbefore := ht.2 (step.live live)
      have hstep := step.spawned ht.1 live
      simp only [Deed.spawned, List.filterMap_append] at hbefore hstep ⊢
      rw [← List.append_assoc, hbefore, hstep])
    moves s [] ⟨h, fun _ => by simp [Deed.spawned]⟩
  exact account.2 live

/-- The slots of a session that runs are known from the session as if it did not. -/
theorem Orderly.slots_of_asleep (h : s.Orderly) (running : s.running = true) :
    s.slots = s.asleep.slots.map fun slot => { slot with scheduled := true } := by
  simp only [asleep, List.map_map]
  refine (List.map_id _).symm.trans (List.map_congr_left fun slot hs => ?_)
  have := h.scheduled slot hs
  rw [running] at this
  simp [Function.comp, ← this]

theorem Orderly.cycles_of_running (h : s.Orderly) (live : s.stopped = false)
    (running : s.running = true) :
    s.cycles.map Cycle.registration = s.slots.map Slot.registration := by
  rw [h.enrolled live, if_pos running]

/-! ## The first endpoint that is accepted -/

theorem tracked_asleep (s : Session η) (name : String) :
    (s.asleep.slot? name).map Slot.tracked = (s.slot? name).map Slot.tracked := by
  rw [slot?_asleep, Option.map_map]
  rfl

/-- What is tracked stays, and a name that is not tracked takes the endpoint that is accepted. -/
theorem tracked_take {mv : Move ε η} (live : s.stopped = false) (lasting : mv ≠ .stop)
    (name : String) :
    ((s.take mv).1.slot? name).map Slot.tracked =
      ((s.slot? name).map Slot.tracked).or (mv.accepted? name) := by
  rcases mv.asked?_cases with quiet | ⟨create, now, e, rfl⟩
  · have unseen : mv.accepted? name = none := by
      cases mv with
      | add create now e => cases quiet
      | _ => rfl
    rw [← tracked_asleep, asleep_step quiet lasting, tracked_asleep, unseen, Option.or_none]
  · simp only [take, add, live, Move.accepted?]
    by_cases named : e.name = name
    · subst named
      rcases there : s.slot? e.name with _ | slot
      · rcases create e with err | handler
        · simp [there]
        · unfold slot? at there ⊢
          simp [List.find?_append, there, Slot.tracked]
      · simp [there]
    · have unseen : (e.name == name) = false := by simpa using named
      rcases s.slot? e.name with _ | slot
      · rcases create e with err | handler
        · simp [unseen]
        · simp [slot?, List.find?_append, unseen]
      · simp [unseen]

theorem tracked_run (name : String) : ∀ (moves : List (Move ε η)) (s : Session η),
    s.stopped = false → .stop ∉ moves →
    ((s.run moves).1.slot? name).map Slot.tracked =
      ((s.slot? name).map Slot.tracked).or (moves.findSome? (Move.accepted? name))
  | [], s, _, _ => by simp [run]
  | mv :: rest, s, live, lasting => by
    rw [List.mem_cons, not_or] at lasting
    have lasting' := Ne.symm lasting.1
    have live' : (s.take mv).1.stopped = false := (stopped_take lasting').trans live
    rw [run_cons, tracked_run name rest _ live' lasting.2, tracked_take live lasting',
      Option.or_assoc, List.findSome?_cons]
    cases mv.accepted? name <;> rfl

/-! ## Early and late starts -/

/-- An addition that fails changes nothing. -/
theorem add_of_error {create : EndpointConfig → Except ε η} {now : Nat} {e : EndpointConfig}
    {err : ε} (failed : (s.add create now e).2.1 = .error err) :
    s.add create now e = (s, .error err, []) := by
  by_cases ended : s.stopped = true
  · simp [add, ended] at failed
  · rcases there : s.slot? e.name with _ | slot
    · rcases made : create e with err' | handler
      · simpa [add, ended, there, made] using failed
      · simp [add, ended, there, made] at failed
    · simp [add, ended, there] at failed

/-- Two runs of one session that ask it to track the same and both start it come to the same. -/
theorem Orderly.eq_of_asked {calls others : List (Move ε η)} (h : s.Orderly)
    (live : s.stopped = false) (lasting : .stop ∉ calls) (lasting' : .stop ∉ others)
    (begun : ∃ now, .start now ∈ calls) (begun' : ∃ now, .start now ∈ others)
    (same : calls.filterMap Move.asked? = others.filterMap Move.asked?) :
    (s.run calls).1.slots = (s.run others).1.slots ∧
      (s.run calls).1.nextEpoch = (s.run others).1.nextEpoch ∧
      Deed.spawned (s.run calls).2 = Deed.spawned (s.run others).2 ∧
      s.results calls = s.results others := by
  obtain ⟨hasleep, hresults⟩ := asleep_run calls s lasting
  obtain ⟨hasleep', hresults'⟩ := asleep_run others s lasting'
  rw [← same] at hasleep' hresults'
  have halike : (s.run calls).1.asleep = (s.run others).1.asleep := hasleep.trans hasleep'.symm
  have running := running_run calls s live lasting (Or.inr begun)
  have running' := running_run others s live lasting' (Or.inr begun')
  have live₁ := (stopped_run calls s lasting).trans live
  have live₂ := (stopped_run others s lasting').trans live
  have hslots : (s.run calls).1.slots = (s.run others).1.slots := by
    rw [(h.run calls).slots_of_asleep running, (h.run others).slots_of_asleep running', halike]
  have hspawned : s.cycles.map Cycle.registration ++ Deed.spawned (s.run calls).2 =
      s.cycles.map Cycle.registration ++ Deed.spawned (s.run others).2 := by
    rw [h.spawned_run calls live₁, h.spawned_run others live₂,
      (h.run calls).cycles_of_running live₁ running,
      (h.run others).cycles_of_running live₂ running', hslots]
  exact ⟨hslots, (congrArg Session.nextEpoch halike :), List.append_cancel_left hspawned,
    hresults.trans hresults'.symm⟩

/-- Starting and adding commute. In a session that has not been stopped, whatever has happened to it:

* however one or more starts are put before, between and after additions, at whatever times and with
  whatever steps of cycles in between, the session ends as it does if it is started first: with the
  same slots, that is, endpoints, epochs and handlers, with the same next epoch, running, with the same
  cycles begun, and with the same results of the additions;
* each tracked name has exactly one cycle, of the endpoint tracked;
* what a name is tracked as is what it was tracked as before, and otherwise the first endpoint of that
  name whose handler could be made;
* an addition that fails leaves the session as it was and brings nothing about. -/
theorem starts_and_additions_commute (service : ServiceConfig) (history : List (Move ε η))
    (live : ((fresh service).run history).1.stopped = false) (calls others : List (Move ε η))
    (now : Nat) (lasting : .stop ∉ calls) (lasting' : .stop ∉ others)
    (begun : ∃ now, .start now ∈ calls)
    (same : calls.filterMap Move.asked? = others.filterMap Move.asked?) :
    let s := ((fresh service).run history).1
    let late := s.run calls
    let early := s.run (.start now :: others)
    (late.1.slots = early.1.slots ∧ late.1.nextEpoch = early.1.nextEpoch ∧
      late.1.running = true ∧ early.1.running = true ∧
      Deed.spawned late.2 = Deed.spawned early.2 ∧
      s.results calls = s.results (.start now :: others)) ∧
    (late.1.endpoints.Nodup ∧
      late.1.cycles.map Cycle.registration = late.1.slots.map Slot.registration ∧
      early.1.cycles.map Cycle.registration = early.1.slots.map Slot.registration) ∧
    (∀ name, (late.1.slot? name).map Slot.tracked =
      ((s.slot? name).map Slot.tracked).or (calls.findSome? (Move.accepted? name))) ∧
    ∀ (t : Session η) (create : EndpointConfig → Except ε η) (now : Nat) (e : EndpointConfig)
      (err : ε), (t.add create now e).2.1 = .error err → t.add create now e = (t, .error err, []) := by
  intro s late early
  have orderly : s.Orderly := (fresh_orderly service).run history
  have lasting₂ : .stop ∉ Move.start now :: others := by simpa using lasting'
  have begun₂ : ∃ now', .start now' ∈ Move.start now :: others := ⟨now, List.mem_cons_self⟩
  have running := running_run calls s live lasting (Or.inr begun)
  have running' := running_run _ s live lasting₂ (Or.inr begun₂)
  have live₁ := (stopped_run calls s lasting).trans live
  have live₂ := (stopped_run _ s lasting₂).trans live
  obtain ⟨hslots, hepoch, hspawned, hresults⟩ :=
    orderly.eq_of_asked live lasting lasting₂ begun begun₂ same
  refine ⟨⟨hslots, hepoch, running, running', hspawned, hresults⟩, ⟨?_, ?_, ?_⟩, ?_, ?_⟩
  · exact (orderly.run calls).names
  · exact (orderly.run calls).cycles_of_running live₁ running
  · exact (orderly.run _).cycles_of_running live₂ running'
  · intro name
    exact tracked_run name calls s live lasting
  · intro t create now e err failed
    exact add_of_error failed

/-- A session that has polled one endpoint is given a second, a rejected third, and another under the
name of the second, with starts after the first and after the last of these. -/
theorem starts_and_additions_commute_late :
    let service : ServiceConfig := { name := "s", host := "s.test", topicPathRoot := "s" }
    let endpoint (name url : String) : EndpointConfig := { name, url, topicPath := name }
    let create (e : EndpointConfig) : Except String String := .ok e.url
    let reject (_ : EndpointConfig) : Except String String := .error "no handler"
    let history : List (Move String String) :=
      [.add create 0 (endpoint "a" "/a"), .start 5, .prepare 5 0]
    let s := ((fresh service).run history).1
    let calls : List (Move String String) :=
      [.add create 10 (endpoint "b" "/b"), .start 20, .add reject 30 (endpoint "c" "/c"),
        .send 40 (.ok { status := 200 }) 0, .add create 40 (endpoint "b" "/d"), .start 50]
    let others : List (Move String String) :=
      [.add create 0 (endpoint "b" "/b"), .add reject 0 (endpoint "c" "/c"),
        .add create 0 (endpoint "b" "/d")]
    (s.run calls).1.slots = (s.run (.start 6 :: others)).1.slots ∧
      s.results calls = [.ok (), .error "no handler", .ok ()] ∧
      ((s.run calls).1.slot? "b").map Slot.tracked = some (endpoint "b" "/b", "/b") := by
  intro service endpoint create reject history s calls others
  have live : s.stopped = false := by decide +kernel
  have main := starts_and_additions_commute service history live calls others
    6 (by simp [calls]) (by simp [others]) ⟨20, by simp [calls]⟩ rfl
  refine ⟨?_, by decide +kernel, (main.2.2.1 "b").trans (by decide +kernel)⟩
  simpa only [s] using main.1.1

end Session

end TopicRelay.Polling
