/-
What becomes of the sessions that the broker opens. Every move of the lifecycle conserves sessions:
what it held and what its event carried is what it holds afterwards, what it closed and what was
reported gone. So each opened session is at every time in one place, and as the lifecycle closes what
it gives up, none is left behind; and services end before the session that they were registered with
is closed.
-/
import Mathlib.Data.List.Nodup
import Mathlib.Data.List.Perm.Basic
import TopicRelay.Proofs.Control.Adapter

namespace TopicRelay.Control

open TopicRelay.Broker TopicRelay.Config TopicRelay.Content TopicRelay.Polling

open LifecycleEffect

variable {env : Surroundings} {m : Model} {rebuild : Bool} {l l' : Lifecycle} {ev : LifecycleEvent}
  {layer : BrokerLayer} {ds : List LifecycleEffect} {e : Option LifecycleError}

/-! ## Sessions that are closed -/

namespace LifecycleEffect

theorem closes_append (es fs : List LifecycleEffect) : closes (es ++ fs) = closes es ++ closes fs :=
  List.filterMap_append

theorem closes_deeds (es : List LifecycleEffect) : closes (deeds es) = closes es :=
  filterMap_deeds (fun _ => rfl) (fun _ => rfl) es

theorem closes_retirements (rs : List Running) : closes (retirements rs) = [] := by
  simp [closes, retirements]

theorem closes_launches (rs : List Running) : closes (launches rs) = [] := by
  simp [closes, launches]

theorem closes_sessions (ss : List Session) : closes (ss.map .closeSession) = ss := by
  unfold closes
  rw [List.filterMap_map]
  exact List.filterMap_some

theorem closes_clearing (l : Lifecycle) : closes l.clearing = l.held.toList := by
  unfold Lifecycle.clearing Lifecycle.held
  rw [closes_append, closes_retirements, List.nil_append]
  cases l.layer <;> rfl

end LifecycleEffect

namespace Lifecycle

/-! ## Conservation -/

theorem Serve.held (mv : Serve env m rebuild l layer l' ds e) : l'.held = l.held ∧ closes ds = [] := by
  refine ⟨congrArg (Option.map _) mv.frame.1, ?_⟩
  cases mv with
  | failed => exact closes_retirements _
  | rebuilt =>
    show closes (retirements _ ++ launches _) = []
    rw [closes_append, closes_retirements, closes_launches, List.nil_append]
  | reused => rw [closes_append, closes_retirements, closes_launches, List.nil_append]

/-- The held session is the one that a report about the session or the attempt is about. -/
theorem reported_of_concerns {l : Lifecycle} {generation : Nat} (h : l.Agreement) (n : Notification)
    (ours : l.concerns generation = true) : l.reported (.notified generation n) = l.held.toList := by
  unfold reported held
  cases hl : l.layer with
  | none => rfl
  | some layer =>
    rcases concerns_eq_true.1 ours with ⟨layer', hl', hg⟩ | ⟨attempted, -⟩
    · rw [hl] at hl'
      cases hl'
      simp [Option.filter, hg]
    · obtain ⟨a, ha⟩ := Option.isSome_iff_exists.1 attempted
      rw [(h.attempt a ha).2] at hl
      cases hl

theorem reported_of_not_concerns {l : Lifecycle} {generation : Nat} (n : Notification)
    (stale : l.concerns generation = false) : l.reported (.notified generation n) = [] := by
  unfold reported
  cases hl : l.layer with
  | none => rfl
  | some layer =>
    have hg : layer.generation ≠ generation := (concerns_eq_false.1 stale).1 layer hl
    simp [Option.filter, hg]

/-- No move loses a session or makes up one. -/
theorem Move.conserves (h : l.Agreement) (mv : Move env l ev l' ds e) :
    (l'.held.toList ++ (closes ds ++ l.reported ev)).Perm (l.held.toList ++ ev.carried) := by
  -- what was held is closed, and nothing else is at stake
  have clears {ds : List LifecycleEffect} (hds : closes ds = l.held.toList) :
      (([] : List Session) ++ (closes ds ++ [])).Perm (l.held.toList ++ []) := by
    rw [hds, List.nil_append]
  have attempts : l.state = .connecting → l.held = none := by
    intro connecting
    obtain ⟨-, -, -, -, -, hl⟩ := h.of_connecting connecting
    unfold held
    rw [hl]
    rfl
  cases mv with
  | ignored | kept | ended => exact .refl _
  | deactivated on off =>
    refine clears ?_
    rw [closes_append, closes_clearing]
    split <;> exact List.append_nil _
  | rested on active idle =>
    rw [closes_retirements]
    exact .refl _
  | served active busy running held suits differs serve =>
    obtain ⟨h1, h2⟩ := serve.held
    rw [h1, h2]
    exact .refl _
  | untrusted on active busy unsuited refused => exact clears (closes_clearing l)
  | dialled on active busy unsuited loaded =>
    refine clears ?_
    rw [closes_append, closes_clearing]
    exact List.append_nil _
  | closed on => exact clears (closes_clearing l)
  | @discarded generation result stale =>
    rw [closes_sessions]
    show (_ ++ (carried result ++ [])).Perm (_ ++ carried result)
    rw [List.append_nil]
  | failed connecting => exact .refl _
  | @unasked s connecting absent =>
    rw [attempts connecting]
    show (l.held.toList ++ _).Perm _
    rw [attempts connecting]
    exact .refl _
  | @accepted s m _ _ _ layer connecting asked taken serve =>
    obtain ⟨h1, h2⟩ := serve.held
    rw [h1, h2, attempts connecting, taken]
    exact .refl _
  | unheard stale =>
    rw [reported_of_not_concerns _ (stale.elim (concerns_of_stopped h) id)]
    exact .refl _
  | lost on ours quiet unattempted =>
    rw [reported_of_concerns h _ ours]
    exact List.perm_append_comm
  | severed on ours bears =>
    rw [reported_of_concerns h _ ours, closes_retirements]
    exact List.perm_append_comm

end Lifecycle

/-! ## Services and their sessions -/

/-- The roll of a lifecycle: its services run through the session that it holds. -/
def Lifecycle.roll (l : Lifecycle) : Roll :=
  { serving := l.services.running.map fun r => { service := r, session := l.held } }

namespace Roll

theorem foldl_deeds (held : Option Session) (roll : Roll) (es : List LifecycleEffect) :
    (deeds es).foldl (note held) roll = es.foldl (note held) roll := by
  unfold deeds
  rw [List.foldl_filter]
  congr 1
  funext roll e
  split
  · rfl
  · rename_i he
    cases e with
    | log => rfl
    | services e => cases e <;> first | rfl | exact absurd rfl he
    | httpBuilt | openSession | closeSession | shutdown => exact absurd rfl he

theorem foldl_launches (held : Option Session) (roll : Roll) (rs : List Running) :
    (launches rs).foldl (note held) roll =
      { roll with serving := roll.serving ++ rs.map fun r => { service := r, session := held } } := by
  induction rs generalizing roll with
  | nil => simp [launches]
  | cons r rest ih =>
    show (launches rest).foldl (note held) _ = _
    rw [ih]
    simp [note]

theorem foldl_retirements (held : Option Session) (roll : Roll) (rs : List Running) :
    (retirements rs).foldl (note held) roll =
      { roll with serving := roll.serving.filter fun x => x.service ∉ rs } := by
  induction rs generalizing roll with
  | nil => simp [retirements]
  | cons r rest ih =>
    show (retirements rest).foldl (note held) _ = _
    rw [ih]
    simp [note, Bool.and_comm]

/-- Once its services have ended, nothing is left in the roll of a lifecycle. -/
theorem foldl_retirements_roll (held : Option Session) (l : Lifecycle) :
    (retirements l.services.running).foldl (note held) l.roll = {} := by
  rw [foldl_retirements, Lifecycle.roll, List.filter_map, List.filter_eq_nil_iff.2, List.map_nil]
  intro r hr
  simpa using hr

/-- A session that no service runs through is closed without an interruption. -/
theorem note_closeSession (held : Option Session) {roll : Roll} {s : Session}
    (unused : ∀ x ∈ roll.serving, x.session ≠ some s) : note held roll (.closeSession s) = roll := by
  have none : (roll.serving.filter fun x => x.session = some s) = [] :=
    List.filter_eq_nil_iff.2 fun x hx => by simpa using unused x hx
  simp [note, none]

theorem foldl_clearing (held : Option Session) (l : Lifecycle) :
    l.clearing.foldl (note held) l.roll = {} := by
  unfold Lifecycle.clearing
  rw [List.foldl_append, foldl_retirements_roll]
  cases l.layer with
  | none => rfl
  | some layer => rfl

end Roll

namespace Lifecycle

theorem Serve.keeps_roll (mv : Serve env m rebuild l layer l' ds e) :
    ds.foldl (Roll.note l'.held) l.roll = l'.roll := by
  cases mv with
  | failed => exact Roll.foldl_retirements_roll _ l
  | rebuilt =>
    show (retirements _ ++ launches _).foldl (Roll.note _) l.roll = _
    rw [List.foldl_append, Roll.foldl_retirements_roll, Roll.foldl_launches]
    rfl
  | reused =>
    rw [List.foldl_append, Roll.foldl_retirements_roll, Roll.foldl_launches]
    rfl

/-- A move keeps the roll, unless it is handed the held session a second time. -/
theorem Move.keeps_roll (h : l.Agreement) (new : ∀ s ∈ ev.carried, l.held ≠ some s)
    (mv : Move env l ev l' ds e) :
    ds.foldl (Roll.note l'.held) l.roll = l'.roll := by
  -- outside the active state no service runs, so it does not matter which session is held
  have idle {l : Lifecycle} (h : l.Agreement) (hs : l.state ≠ .active) : l.roll = {} := by
    unfold roll
    rw [(h.bare hs).2]
    rfl
  cases mv with
  | ignored | kept | ended | failed | unheard => rfl
  | deactivated on off =>
    rw [List.foldl_append, Roll.foldl_clearing]
    split <;> rfl
  | rested | severed => exact Roll.foldl_retirements_roll _ l
  | served active busy running held suits differs serve => exact serve.keeps_roll
  | untrusted | closed => exact Roll.foldl_clearing _ l
  | dialled =>
    rw [List.foldl_append, Roll.foldl_clearing]
    rfl
  | @discarded generation result stale =>
    cases result with
    | error e => rfl
    | ok s =>
      refine Roll.note_closeSession l.held fun x hx => ?_
      obtain ⟨r, -, rfl⟩ := List.mem_map.1 hx
      exact new s (List.mem_singleton.2 rfl)
  | unasked connecting absent =>
    show [LifecycleEffect.closeSession _].foldl _ l.roll = l.roll
    rw [idle h (by rw [connecting]; nofun)]
    rfl
  | @accepted s m l' ds e layer connecting asked taken serve =>
    have quiet : l.state ≠ .active := by rw [connecting]; nofun
    have taken : roll { l with connecting := none, layer := some layer } = l.roll := by
      unfold roll
      rw [(h.bare quiet).2]
      rfl
    rw [← taken]
    exact serve.keeps_roll
  | lost on ours quiet unattempted =>
    rw [idle h quiet]
    unfold roll
    rw [show ({ l with layer := none } : Lifecycle).services.running = [] from (h.bare quiet).2]
    rfl

/-- The services that run publish through the client of the held session. -/
def Attached (l : Lifecycle) : Prop :=
  ∀ r ∈ l.services.running, ∃ s, l.held = some s ∧ r.context.client = s.client

theorem fresh_attached (shutdownAwaited observed : Bool) : (fresh shutdownAwaited observed).Attached :=
  fun _ hr => nomatch hr

theorem Serve.attached (mv : Serve env m rebuild l layer l' ds e) (held : l.layer = some layer) :
    l'.Attached := by
  have hs : l.held = some layer.session := by
    unfold Lifecycle.held
    rw [held]
    rfl
  intro r hr
  cases mv with
  | failed => cases hr
  | rebuilt | reused => exact ⟨layer.session, hs, by rw [Services.context_of_mem_fresh hr]⟩

theorem Move.attached (h : l.Agreement) (ha : l.Attached) (mv : Move env l ev l' ds e) : l'.Attached := by
  intro r hr
  cases mv with
  | ignored | kept | ended | discarded | unheard | failed | unasked => exact ha r hr
  | deactivated | rested | untrusted | dialled | closed | severed => cases hr
  | lost on ours quiet unattempted =>
    have hr : r ∈ l.services.running := hr
    rw [(h.bare quiet).2] at hr
    cases hr
  | served active busy running held suits differs serve => exact serve.attached held r hr
  | accepted connecting asked taken serve => exact serve.attached rfl r hr

end Lifecycle

namespace Adapter

/-! ## The ledger -/

/-- Where the sessions are that were opened: yet to be delivered, held, closed, or reported gone. -/
def accounted (a : Adapter) : List Session :=
  a.awaited ++ (a.life.held.toList ++ (a.closed ++ a.gone))

/-- Every session that was opened is in one place, or among those that are handed to the lifecycle. -/
structure Ledger (handed : List Session) (a : Adapter) : Prop where
  agreement : a.life.Agreement
  attached : a.life.Attached
  numbered : a.sessions.map (·.number) = List.range a.sessions.length
  census : (a.accounted ++ handed).Perm a.sessions
  roll : a.roll = a.life.roll

theorem fresh_ledger (shutdownAwaited observed : Bool) : (fresh shutdownAwaited observed).Ledger [] where
  agreement := Lifecycle.fresh_agreement shutdownAwaited observed
  attached := Lifecycle.fresh_attached shutdownAwaited observed
  numbered := rfl
  census := .refl _
  roll := rfl

theorem Ledger.nodup {a : Adapter} {handed : List Session} (h : a.Ledger handed) : a.sessions.Nodup := by
  apply List.Nodup.of_map (·.number)
  rw [h.numbered]
  exact List.nodup_range

theorem Ledger.new {a : Adapter} {handed : List Session} (h : a.Ledger handed) :
    ∀ s ∈ handed, a.life.held ≠ some s := by
  -- a session that is both held and handed over would be counted twice
  intro s hs held
  have apart := List.nodup_append.1 (h.census.nodup_iff.2 h.nodup)
  refine apart.2.2 s ?_ s hs rfl
  unfold accounted
  rw [held]
  simp

theorem Ledger.drive {a : Adapter} {ev : LifecycleEvent} (h : a.Ledger ev.carried) :
    (a.drive ev).Ledger [] := by
  have mv := Lifecycle.move_step a.surroundings a.life ev
  have deeds (held : Option Session) := Roll.foldl_deeds held a.roll (a.life.step a.surroundings ev).effects
  refine ⟨mv.agreement h.agreement, mv.attached h.agreement h.attached, h.numbered, ?_, ?_⟩
  · -- what was held and handed over is afterwards held, closed or gone, and nothing else moves
    have conserved := List.perm_iff_count.1 (mv.conserves h.agreement)
    have census := List.perm_iff_count.1 h.census
    rw [Course.deeds, closes_deeds] at conserved
    rw [List.perm_iff_count]
    intro s
    have h1 := conserved s
    have h2 := census s
    simp only [accounted, awaited, Adapter.drive, List.count_append, List.count_nil] at h1 h2 ⊢
    omega
  · show List.foldl _ _ _ = _
    rw [← deeds, h.roll]
    exact mv.keeps_roll h.agreement h.new

theorem Ledger.answer {a : Adapter} (n : Nat) (result : Except ConnectionError (String × Client))
    (h : a.Ledger []) : (a.answer n result).Ledger [] := by
  unfold Adapter.answer
  cases a.waiting[n]? with
  | none => exact h
  | some d =>
    cases result with
    | error e =>
      refine ⟨h.agreement, h.attached, h.numbered, ?_, h.roll⟩
      simpa [accounted, awaited, Lifecycle.carried] using h.census
    | ok p =>
      refine ⟨h.agreement, h.attached, ?_, ?_, h.roll⟩
      · simp only [List.map_append, h.numbered, List.map_cons, List.map_nil, List.length_append,
          List.length_singleton, List.range_succ]
        rfl
      · have census := List.perm_iff_count.1 h.census
        rw [List.perm_iff_count]
        intro s
        have h1 := census s
        simp only [accounted, awaited, Lifecycle.carried, List.flatMap_append, List.flatMap_cons,
          List.flatMap_nil, List.count_append, List.count_nil] at h1 ⊢
        omega

theorem Ledger.deliver {a : Adapter} (n : Nat) (h : a.Ledger []) : (a.deliver n).Ledger [] := by
  rcases a.deliver_eq n with hn | ⟨d, result, hn, hd⟩
  · rw [hn]
    exact h
  · rw [hd]
    apply Ledger.drive
    refine ⟨h.agreement, h.attached, h.numbered, ?_, h.roll⟩
    -- the session that is delivered goes from those awaited to those handed over
    obtain ⟨hlt, hp⟩ := List.getElem?_eq_some_iff.1 hn
    have taken := (List.getElem_cons_eraseIdx_perm hlt).flatMap_right fun p => Lifecycle.carried p.2
    rw [hp] at taken
    have delivered := List.perm_iff_count.1 taken
    have census := List.perm_iff_count.1 h.census
    rw [List.perm_iff_count]
    intro s
    have h1 := delivered s
    have h2 := census s
    simp only [accounted, awaited, LifecycleEvent.carried, List.flatMap_cons, List.count_append,
      List.count_nil] at h1 h2 ⊢
    omega

theorem Ledger.take {a : Adapter} (turn : Turn) (h : a.Ledger []) : (a.take turn).Ledger [] := by
  cases turn with
  | files fs => exact ⟨h.agreement, h.attached, h.numbered, h.census, h.roll⟩
  | http failure => exact ⟨h.agreement, h.attached, h.numbered, h.census, h.roll⟩
  | reconfigure m =>
    have h : Ledger [] { a with models := a.models ++ [m] } :=
      ⟨h.agreement, h.attached, h.numbered, h.census, h.roll⟩
    exact Ledger.drive h
  | close => exact Ledger.drive h
  | answer n result => exact h.answer n result
  | deliver n => exact h.deliver n
  | notify generation n => exact Ledger.drive h

theorem run_ledger {a : Adapter} (h : a.Ledger []) (turns : List Turn) : (a.run turns).Ledger [] :=
  run_induction (fun _ turn => Ledger.take turn) h turns

/-! ## What is gone stays gone -/

theorem take_gone (a : Adapter) (turn : Turn) : a.gone <+: (a.take turn).gone := by
  cases turn with
  | files | http => exact List.prefix_refl _
  | reconfigure | close | notify => exact List.prefix_append ..
  | answer n result =>
    show _ <+: (a.answer n result).gone
    simp only [(a.answer_frame n result).2.2, List.prefix_refl]
  | deliver n =>
    show _ <+: (a.deliver n).gone
    rcases a.deliver_eq n with h | ⟨d, result, -, h⟩
    · simp only [h, List.prefix_refl]
    · rw [h]
      exact List.prefix_append ..

theorem run_gone (a : Adapter) (turns : List Turn) : a.gone <+: (a.run turns).gone :=
  run_induction (P := fun b => a.gone <+: b.gone) (fun b turn h => h.trans (take_gone b turn))
    (List.prefix_refl _) turns

/-! ## Accounts -/

theorem Ledger.count {a : Adapter} (h : a.Ledger []) (s : Session) :
    a.awaited.count s + a.life.held.toList.count s + a.closed.count s + a.gone.count s =
      if s ∈ a.sessions then 1 else 0 := by
  have census := h.census.count_eq s
  rw [h.nodup.count] at census
  simp only [accounted, List.count_append, List.count_nil] at census
  omega

theorem Ledger.not_closed {a : Adapter} (h : a.Ledger []) {s : Session} (gone : s ∈ a.gone) :
    s ∉ a.closed := by
  intro closed
  have once := h.count s
  have h1 : 0 < a.gone.count s := List.count_pos_iff.2 gone
  have h2 : 0 < a.closed.count s := List.count_pos_iff.2 closed
  split at once <;> omega

theorem Ledger.serving {a : Adapter} (h : a.Ledger []) {x : Registration} (hx : x ∈ a.roll.serving) :
    x.session = a.life.held ∧ ∃ s, a.life.held = some s ∧ x.service.context.client = s.client := by
  rw [h.roll] at hx
  obtain ⟨r, hr, rfl⟩ := List.mem_map.1 hx
  exact ⟨rfl, h.attached r hr⟩

/-- No session is left behind, and none is closed twice. After every run of models, closings, answers
of the broker, deliveries and reports, in any order, each session that was opened is, exactly once,
among those that are yet to be delivered, or the held one, or among those that were closed, or among
those that were held when they were reported lost or closed; and the latter are never closed. The
services that run are registered through the held session, and no session was ever closed while a
service that was registered through it ran. So once everything has ended and no result is
outstanding, each session was closed once or was reported gone. -/
theorem sessions_accounted_for (shutdownAwaited observed : Bool) (turns : List Turn) :
    let a := (fresh shutdownAwaited observed).run turns
    a.sessions.Nodup ∧
    (∀ s, a.awaited.count s + a.life.held.toList.count s + a.closed.count s + a.gone.count s =
      if s ∈ a.sessions then 1 else 0) ∧
    (∀ s ∈ a.gone, ∀ later : List Turn, s ∉ (a.run later).closed) ∧
    a.roll.serving.map (·.service) = a.life.services.running ∧
    (∀ x ∈ a.roll.serving, x.session = a.life.held ∧
      ∃ s, a.life.held = some s ∧ x.service.context.client = s.client) ∧
    a.roll.interrupted = [] ∧
    (a.life.state = .stopped → a.undelivered = [] →
      ∀ s ∈ a.sessions, a.closed.count s + a.gone.count s = 1) := by
  intro a
  have h : a.Ledger [] := run_ledger (fresh_ledger shutdownAwaited observed) turns
  refine ⟨h.nodup, h.count, ?_, ?_, fun x => h.serving, ?_, ?_⟩
  · intro s gone later
    exact (run_ledger h later).not_closed ((run_gone a later).subset gone)
  · rw [h.roll, Lifecycle.roll, List.map_map]
    exact List.map_id _
  · rw [h.roll]
    rfl
  · intro ended undelivered s opened
    have once := h.count s
    have nothing : a.life.held = none := by
      unfold Lifecycle.held
      rw [h.agreement.stopped ended]
      rfl
    rw [if_pos opened, nothing, awaited, undelivered] at once
    simpa using once

end Adapter

end TopicRelay.Control
