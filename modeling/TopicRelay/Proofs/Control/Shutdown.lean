/-
The end of the lifecycle. Whoever waits for the deactivation is told of it at most once, by the first
inactive model that finds the lifecycle before its end, and only after everything has been given up;
closing never tells. A lifecycle that has come to its end stays as it is, and all that later events
bring about is that the sessions they carry are closed.
-/
import TopicRelay.Proofs.Control.Generations

namespace TopicRelay.Control

open TopicRelay.Broker TopicRelay.Config TopicRelay.Polling

open LifecycleEffect

variable {env : Surroundings} {m : Model} {rebuild : Bool} {l l' : Lifecycle} {ev : LifecycleEvent}
  {layer : BrokerLayer} {ds : List LifecycleEffect} {e : Option LifecycleError}

/-- Whether an event is an inactive model. -/
def LifecycleEvent.deactivates : LifecycleEvent → Bool
  | .reconfigure m => !m.active
  | _ => false

namespace Lifecycle

/-- Whether an event is answered by telling of the deactivation. -/
def tells (l : Lifecycle) (ev : LifecycleEvent) : Bool :=
  l.shutdownAwaited && decide (l.state ≠ .stopped) && ev.deactivates

/-! ## One event -/

theorem count_shutdown_deeds (es : List LifecycleEffect) :
    (deeds es).count .shutdown = es.count .shutdown :=
  List.count_filter rfl

@[simp] theorem count_shutdown_retirements (rs : List Running) : (retirements rs).count .shutdown = 0 := by
  rw [List.count_eq_zero]
  simp [retirements]

@[simp] theorem count_shutdown_launches (rs : List Running) : (launches rs).count .shutdown = 0 := by
  rw [List.count_eq_zero]
  simp [launches]

@[simp] theorem count_shutdown_clearing (l : Lifecycle) : l.clearing.count .shutdown = 0 := by
  rw [List.count_eq_zero]
  simp [clearing, retirements]

theorem Serve.count_shutdown (mv : Serve env m rebuild l layer l' ds e) : ds.count .shutdown = 0 := by
  cases mv <;> simp

theorem Serve.shutdownAwaited (mv : Serve env m rebuild l layer l' ds e) :
    l'.shutdownAwaited = l.shutdownAwaited := by
  cases mv <;> simp [halted, serving]

/-- An event tells of the deactivation once, or not at all. -/
theorem Move.count_shutdown (mv : Move env l ev l' ds e) : ds.count .shutdown = (l.tells ev).toNat := by
  unfold tells
  cases mv with
  | ignored ended | ended ended => simp [ended]
  | deactivated on off =>
    rw [List.count_append, count_shutdown_clearing]
    cases l.shutdownAwaited <;> simp [on, LifecycleEvent.deactivates, off]
  | rested on active | untrusted on active | dialled on active | kept active =>
    simp [LifecycleEvent.deactivates, active]
  | served active busy running held suits differs serve =>
    simp [LifecycleEvent.deactivates, active, serve.count_shutdown]
  | accepted connecting asked taken serve => simp [LifecycleEvent.deactivates, serve.count_shutdown]
  | @discarded generation result stale => cases result <;> simp [LifecycleEvent.deactivates, carried]
  | closed | failed | unasked | unheard | lost | severed => simp [LifecycleEvent.deactivates]

/-- Whoever waits goes on waiting, unless this is the end. -/
theorem Move.awaits (mv : Move env l ev l' ds e) :
    (l'.shutdownAwaited = l.shutdownAwaited ∧ l.tells ev = false ∧
        (l'.state ≠ .stopped → l.state ≠ .stopped)) ∨
      (l'.shutdownAwaited = false ∧ l'.state = .stopped) := by
  cases mv with
  | ignored ended | ended ended => exact .inl ⟨rfl, by simp [tells, ended], id⟩
  | deactivated => exact .inr ⟨rfl, rfl⟩
  | rested on active | untrusted on active | dialled on active =>
    exact .inl ⟨rfl, by simp [tells, LifecycleEvent.deactivates, active], fun _ => on⟩
  | kept active => exact .inl ⟨rfl, by simp [tells, LifecycleEvent.deactivates, active], id⟩
  | served active busy running held suits differs serve =>
    exact .inl ⟨serve.shutdownAwaited, by simp [tells, LifecycleEvent.deactivates, active],
      fun _ => by rw [running]; nofun⟩
  | closed on | lost on | severed on =>
    exact .inl ⟨rfl, by simp [tells, LifecycleEvent.deactivates], fun _ => on⟩
  | discarded | unheard => exact .inl ⟨rfl, by simp [tells, LifecycleEvent.deactivates], id⟩
  | failed connecting | unasked connecting =>
    exact .inl ⟨rfl, by simp [tells, LifecycleEvent.deactivates], fun _ => by rw [connecting]; nofun⟩
  | accepted connecting asked taken serve =>
    exact .inl ⟨serve.shutdownAwaited, by simp [tells, LifecycleEvent.deactivates],
      fun _ => by rw [connecting]; nofun⟩

/-- Whoever has been told waits no longer. -/
theorem Move.tells_once (mv : Move env l ev l' ds e) :
    (l.tells ev).toNat + l'.shutdownAwaited.toNat ≤ l.shutdownAwaited.toNat := by
  rcases mv.awaits with ⟨kept, quiet, -⟩ | ⟨told, -⟩
  · simp [kept, quiet]
  · unfold tells
    rw [told]
    cases l.shutdownAwaited <;> simp [Bool.toNat_le]

/-- After the end, only sessions that are carried are closed. -/
theorem Move.of_stopped (ended : l.state = .stopped) (mv : Move env l ev l' ds e) :
    l' = l ∧ ds = ev.carried.map .closeSession := by
  cases mv with
  | ignored | ended | unheard | discarded => exact ⟨rfl, rfl⟩
  | deactivated on | rested on | untrusted on | dialled on | closed on | lost on | severed on =>
    exact absurd ended on
  | kept active busy suits same => rcases suits with ⟨hs, -⟩ | ⟨hs, -⟩ <;> rw [ended] at hs <;> cases hs
  | served active busy running => rw [ended] at running; cases running
  | failed connecting | unasked connecting | accepted connecting => rw [ended] at connecting; cases connecting

/-! ## Runs -/

theorem run_shutdown (l : Lifecycle) (evs : List (Surroundings × LifecycleEvent)) :
    (l.run evs).effects.count .shutdown + (l.run evs).life.shutdownAwaited.toNat ≤
      l.shutdownAwaited.toNat := by
  induction evs generalizing l with
  | nil => simp [run]
  | cons p rest ih =>
    obtain ⟨env, ev⟩ := p
    have step := move_step env l ev
    have first := step.tells_once
    have later := ih (l.step env ev).life
    have told : (l.step env ev).effects.count .shutdown = (l.tells ev).toNat := by
      rw [← count_shutdown_deeds]
      exact step.count_shutdown
    show ((l.step env ev).effects ++ ((l.step env ev).life.run rest).effects).count .shutdown +
      ((l.step env ev).life.run rest).life.shutdownAwaited.toNat ≤ _
    rw [List.count_append, told]
    omega

theorem run_of_stopped {l : Lifecycle} (ended : l.state = .stopped)
    (evs : List (Surroundings × LifecycleEvent)) :
    (l.run evs).life = l ∧
      deeds (l.run evs).effects = (evs.flatMap fun p => p.2.carried).map .closeSession := by
  induction evs with
  | nil => exact ⟨rfl, rfl⟩
  | cons p rest ih =>
    obtain ⟨env, ev⟩ := p
    obtain ⟨stays, closes⟩ := (move_step env l ev).of_stopped ended
    constructor
    · show ((l.step env ev).life.run rest).life = l
      rw [stays]
      exact ih.1
    · show deeds ((l.step env ev).effects ++ ((l.step env ev).life.run rest).effects) = _
      rw [deeds_append, Course.deeds_effects, closes, stays, ih.2, List.flatMap_cons, List.map_append]

theorem run_awaits (l : Lifecycle) (evs : List (Surroundings × LifecycleEvent))
    (on : (l.run evs).life.state ≠ .stopped) : (l.run evs).life.shutdownAwaited = l.shutdownAwaited := by
  induction evs generalizing l with
  | nil => rfl
  | cons p rest ih =>
    obtain ⟨env, ev⟩ := p
    have later : ((l.step env ev).life.run rest).life.shutdownAwaited = (l.step env ev).life.shutdownAwaited :=
      ih _ on
    rcases (move_step env l ev).awaits with ⟨kept, -⟩ | ⟨-, ended⟩
    · exact later.trans kept
    · refine absurd ?_ on
      show ((l.step env ev).life.run rest).life.state = .stopped
      rw [(run_of_stopped ended rest).1, ended]

/-! ## The deactivation -/

theorem deactivate_effects {l : Lifecycle} {m : Model} (on : l.state ≠ .stopped)
    (awaited : l.shutdownAwaited = true) :
    (l.deactivate m).effects = l.dismantle.effects ++
      [.log (entry .info "lifecycle_transition"
          [("from_state", .text l.state.name), ("to_state", .text "STOPPED")]),
        .log (entry .info "lifecycle_shutdown" []), .shutdown] := by
  have entered : (l.cleared.enter .stopped).effects = [.log (entry .info "lifecycle_transition"
      [("from_state", .text l.state.name), ("to_state", .text "STOPPED")])] := by
    unfold enter
    rw [if_neg (show ¬ l.cleared.state = .stopped from on)]
    rfl
  unfold deactivate
  show l.dismantle.effects ++ (Course.andThen (l.cleared.enter .stopped) _).effects = _
  unfold Course.andThen
  simp only [entered, enter_life, show l.cleared.shutdownAwaited = true from awaited, if_true, tell,
    List.singleton_append]

/-- Everything is given up before anybody is told: the services have ended, then the session has been
closed, and then the end has been entered. -/
theorem reconfigure_told (env : Surroundings) {l : Lifecycle} {m : Model} (on : l.state ≠ .stopped)
    (off : m.active = false) (awaited : l.shutdownAwaited = true) :
    ∃ before, (l.reconfigure env m).effects = before ++ [.shutdown] ∧ deeds before = l.clearing ∧
      .log (entry .info "lifecycle_transition"
        [("from_state", .text l.state.name), ("to_state", .text "STOPPED")]) ∈ before := by
  refine ⟨.log (entry .info "lifecycle_reconfigure" [("state", .text l.state.name),
      ("active", .flag m.active), ("services", .count m.services.length),
      ("broker", .text m.broker.address)]) ::
    (l.dismantle.effects ++
      [.log (entry .info "lifecycle_transition"
          [("from_state", .text l.state.name), ("to_state", .text "STOPPED")]),
        .log (entry .info "lifecycle_shutdown" [])]), ?_, ?_, ?_⟩
  · unfold reconfigure
    simp [tell, Course.andThen, on, off, deactivate_effects on awaited]
  · simp
  · simp

theorem shutdown_mem_step (env : Surroundings) (l : Lifecycle) (ev : LifecycleEvent) :
    .shutdown ∈ (l.step env ev).effects ↔
      l.shutdownAwaited = true ∧ l.state ≠ .stopped ∧ ∃ m, ev = .reconfigure m ∧ m.active = false := by
  have counted := (move_step env l ev).count_shutdown
  rw [← Course.deeds_effects, count_shutdown_deeds] at counted
  have pos : 0 < (l.tells ev).toNat ↔ l.tells ev = true := by cases l.tells ev <;> simp
  rw [← List.count_pos_iff, counted, pos, tells, Bool.and_eq_true, Bool.and_eq_true,
    decide_eq_true_iff, and_assoc]
  refine and_congr_right fun _ => and_congr_right fun _ => ?_
  cases ev <;> simp [LifecycleEvent.deactivates]

theorem Move.life_of_off (mv : Move env l (.reconfigure m) l' ds e) (on : l.state ≠ .stopped)
    (off : m.active = false) :
    l' = { l.cleared with state := .stopped, model := some m, shutdownAwaited := false } := by
  cases mv with
  | ignored ended => exact absurd ended on
  | deactivated => rfl
  | rested _ active | kept active | served active | untrusted _ active | dialled _ active =>
    rw [off] at active
    cases active

theorem Move.state_of_close (mv : Move env l .close l' ds e) : l'.state = .stopped := by
  cases mv with
  | ended ended => exact ended
  | closed => rfl

/-! ## The end -/

/-- The end is for good, and is told of at most once. After every run of models, closings, results of
attempts and reports of the broker, in any order:

* whoever waits for the deactivation has been told of it at most once;
* an event tells of it just if it is an inactive model, the end has not come and somebody waits; then
  it is the last thing to happen: every running service has been retired, the held session has been
  closed, nothing has been launched, and the lifecycle has entered its end;
* closing never tells of it, whatever comes after it;
* after the end no events open a session, build an HTTP layer or begin a service; the lifecycle stays
  as it is, and the sessions that events carry are closed. -/
theorem stopped_is_final (shutdownAwaited observed : Bool) (evs : List (Surroundings × LifecycleEvent)) :
    let c := (fresh shutdownAwaited observed).run evs
    c.effects.count .shutdown ≤ 1 ∧
    (∀ env ev, .shutdown ∈ (c.life.step env ev).effects ↔
      shutdownAwaited = true ∧ c.life.state ≠ .stopped ∧ ∃ m, ev = .reconfigure m ∧ m.active = false) ∧
    (∀ env ev, .shutdown ∈ (c.life.step env ev).effects →
      (c.life.step env ev).life.state = .stopped ∧ (c.life.step env ev).life.services.running = [] ∧
      (c.life.step env ev).life.layer = none ∧
      ∃ before, (c.life.step env ev).effects = before ++ [.shutdown] ∧ .shutdown ∉ before ∧
        (∀ r ∈ c.life.services.running, .services (.retire r) ∈ before) ∧
        (∀ r, .services (.launch r) ∉ before) ∧
        (∀ layer, c.life.layer = some layer → .closeSession layer.session ∈ before) ∧
        .log (entry .info "lifecycle_transition"
          [("from_state", .text c.life.state.name), ("to_state", .text "STOPPED")]) ∈ before) ∧
    (∀ env later, .shutdown ∉ (c.life.run ((env, .close) :: later)).effects) ∧
    (c.life.state = .stopped → ∀ later, (c.life.run later).life = c.life ∧
      deeds (c.life.run later).effects = (later.flatMap fun p => p.2.carried).map .closeSession) := by
  intro c
  have awaits : c.life.state ≠ .stopped → c.life.shutdownAwaited = shutdownAwaited :=
    run_awaits (fresh shutdownAwaited observed) evs
  have told (env : Surroundings) (ev : LifecycleEvent) :
      .shutdown ∈ (c.life.step env ev).effects ↔
        shutdownAwaited = true ∧ c.life.state ≠ .stopped ∧ ∃ m, ev = .reconfigure m ∧ m.active = false := by
    rw [shutdown_mem_step]
    constructor
    · rintro ⟨awaited, on, off⟩
      exact ⟨(awaits on).symm.trans awaited, on, off⟩
    · rintro ⟨awaited, on, off⟩
      exact ⟨(awaits on).trans awaited, on, off⟩
  refine ⟨?_, told, ?_, ?_, fun ended later => run_of_stopped ended later⟩
  · have once : c.effects.count .shutdown + c.life.shutdownAwaited.toNat ≤ shutdownAwaited.toNat :=
      run_shutdown (fresh shutdownAwaited observed) evs
    have := Bool.toNat_le shutdownAwaited
    omega
  · intro env ev tells
    obtain ⟨awaited, on, m, rfl, off⟩ := (told env ev).1 tells
    obtain ⟨before, heffects, hdeeds, entered⟩ := reconfigure_told env on off ((awaits on).trans awaited)
    have mem {x : LifecycleEffect} (deed : x.isLog = false) : x ∈ before ↔ x ∈ c.life.clearing := by
      rw [← hdeeds, mem_deeds]
      simp [deed]
    have left : (c.life.reconfigure env m).life = { c.life.cleared with
        state := .stopped, model := some m, shutdownAwaited := false } :=
      (reconfigure_spec env c.life m).life_of_off on off
    refine ⟨?_, ?_, ?_, before, heffects, ?_, ?_, ?_, ?_, entered⟩
    · exact congrArg Lifecycle.state left
    · exact congrArg (fun l => l.services.running) left
    · exact congrArg Lifecycle.layer left
    · rw [mem rfl]
      simp [clearing, retirements]
    · intro r hr
      rw [mem rfl]
      exact List.mem_append_left _ (List.mem_map_of_mem hr)
    · intro r
      rw [mem rfl]
      simp [clearing, retirements]
    · intro layer held
      rw [mem rfl]
      simp [clearing, held]
  · intro env later tells
    have closed : (c.life.step env .close).life.state = .stopped :=
      (close_spec env c.life).state_of_close
    rcases List.mem_append.1 tells with tells | tells
    · obtain ⟨-, -, m, h, -⟩ := (told env .close).1 tells
      cases h
    · have := mem_deeds.2 ⟨tells, rfl⟩
      rw [(run_of_stopped closed later).2] at this
      simp at this

end Lifecycle

end TopicRelay.Control
