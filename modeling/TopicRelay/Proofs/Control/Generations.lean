/-
Generations of connections. Attempts to open a session carry strictly increasing generations, the
held session is of the current one, and of each generation at most one result is accepted. A
generation that is neither that of the held session nor that of the attempt under way stays so in
every later state: its results and reports, in any order and any number of times, leave the lifecycle
as it is, and all that they bring about is that the sessions they carry are closed.

The proof follows three facts through every move: generations only grow, a generation once begun can
only lose its session or attempt, and an event of a generation without either is a move that goes
nowhere.
-/
import TopicRelay.Proofs.Control.Agreement

namespace TopicRelay.Control

open TopicRelay.Broker TopicRelay.Config TopicRelay.Polling

open LifecycleEffect

variable {env : Surroundings} {m : Model} {rebuild : Bool} {l l' : Lifecycle} {ev : LifecycleEvent}
  {layer : BrokerLayer} {ds : List LifecycleEffect} {e : Option LifecycleError}

/-! ## Definitions -/

/-- The generations of the attempts that are begun, in order. -/
def LifecycleEffect.begun (es : List LifecycleEffect) : List Nat :=
  es.filterMap fun
    | .openSession generation _ _ => some generation
    | _ => none

/-- The generation that an event is about. -/
def LifecycleEvent.generation? : LifecycleEvent → Option Nat
  | .opened generation _ => some generation
  | .notified generation _ => some generation
  | _ => none

/-- The sessions that an event carries. -/
def LifecycleEvent.carried : LifecycleEvent → List Session
  | .opened _ result => Lifecycle.carried result
  | _ => []

namespace Lifecycle

/-- The generation whose result an event is, if the result is wanted. -/
def accepts (l : Lifecycle) : LifecycleEvent → Option Nat
  | .opened generation _ =>
    if generation = l.generation ∧ l.state = .connecting then some generation else none
  | _ => none

/-- The generations whose results are accepted while a lifecycle takes events. -/
def acceptances : Lifecycle → List (Surroundings × LifecycleEvent) → List Nat
  | _, [] => []
  | l, (env, ev) :: rest => (l.accepts ev).toList ++ acceptances (l.step env ev).life rest

/-- The events that end the attempt or the session of the current generation. -/
inductive Ends (l : Lifecycle) : LifecycleEvent → Prop
  /-- It is replaced, as the model needs another session. -/
  | replaced {m : Model} (active : m.active = true) (busy : m.isIdle = false) (unsuited : ¬ l.Suits m) :
      Ends l (.reconfigure m)
  /-- The attempt is abandoned, as there is nothing to poll. -/
  | abandoned {m : Model} (active : m.active = true) (idle : m.isIdle = true)
      (connecting : l.state = .connecting) : Ends l (.reconfigure m)
  /-- The attempt fails. -/
  | failed {e : ConnectionError} (connecting : l.state = .connecting) :
      Ends l (.opened l.generation (.error e))
  /-- It is reported lost or closed. -/
  | reported {generation : Nat} {n : Notification} (ours : l.concerns generation = true) :
      Ends l (.notified generation n)
  /-- It is dropped by an inactive model. -/
  | deactivated {m : Model} (off : m.active = false) : Ends l (.reconfigure m)
  /-- It is dropped at the end. -/
  | closed : Ends l .close

/-- A generation that has had its time: it has been reached, and neither the held session nor the
attempt under way is of it. -/
def Past (l : Lifecycle) (generation : Nat) : Prop :=
  generation ≤ l.generation ∧ l.concerns generation = false

/-- The lowest generation of which a result can still be accepted. -/
def horizon (l : Lifecycle) : Nat :=
  if l.state = .connecting then l.generation else l.generation + 1

/-! ## The held session -/

theorem concerns_eq_true {l : Lifecycle} {generation : Nat} :
    l.concerns generation = true ↔
      (∃ layer, l.layer = some layer ∧ layer.generation = generation) ∨
        (l.connecting.isSome = true ∧ l.generation = generation) := by
  unfold concerns
  rw [Bool.or_eq_true, Option.any_eq_true, Bool.and_eq_true]
  simp only [beq_iff_eq]

theorem concerns_eq_false {l : Lifecycle} {generation : Nat} :
    l.concerns generation = false ↔
      (∀ layer, l.layer = some layer → layer.generation ≠ generation) ∧
        (l.connecting.isSome = true → l.generation ≠ generation) := by
  rw [← Bool.not_eq_true, concerns_eq_true]
  simp only [not_or, not_exists, not_and, ne_eq]

theorem concerns_of_bare {l : Lifecycle} {generation : Nat} (hl : l.layer = none)
    (hc : l.connecting = none) : l.concerns generation = false := by
  unfold concerns
  rw [hl, hc]
  rfl

/-- Applying services leaves the session, the attempt and the generation alone. -/
theorem Serve.frame (mv : Serve env m rebuild l layer l' ds e) :
    l'.layer = l.layer ∧ l'.connecting = l.connecting ∧ l'.generation = l.generation ∧
      (l'.state = .active ∨ l'.state = .recovering) ∧ begun ds = [] := by
  cases mv with
  | failed needed failure => simp [halted, begun, retirements]
  | rebuilt needed built => simp [serving, begun, retirements, launches]
  | reused kept there => simp [serving, begun, retirements, launches]

/-- The held session is of the current generation. -/
def Current (l : Lifecycle) : Prop :=
  ∀ layer, l.layer = some layer → layer.generation = l.generation

theorem fresh_current (shutdownAwaited observed : Bool) : (fresh shutdownAwaited observed).Current :=
  fun _ hl => nomatch hl

theorem Move.current (h : l.Agreement) (hc : l.Current) (mv : Move env l ev l' ds e) : l'.Current := by
  intro layer hl
  cases mv with
  | ignored | ended | discarded | unheard | kept | failed | unasked => exact hc layer hl
  | deactivated | untrusted | dialled | closed | severed | lost => cases hl
  | rested on active idle =>
    -- an attempt that is abandoned goes with a new generation, but then no session is held
    have hl : l.layer = some layer := hl
    cases ha : l.connecting with
    | none => simpa [ha] using hc layer hl
    | some a => rw [(h.attempt a ha).2] at hl; cases hl
  | served active busy running held suits differs serve =>
    obtain ⟨h1, -, h3, -⟩ := serve.frame
    rw [h1] at hl
    rw [h3]
    exact hc layer hl
  | accepted connecting asked taken serve =>
    obtain ⟨h1, -, h3, -⟩ := serve.frame
    rw [h1] at hl
    rw [h3]
    cases hl
    rw [taken]

/-! ## Generations grow -/

theorem begun_append (es fs : List LifecycleEffect) :
    LifecycleEffect.begun (es ++ fs) = LifecycleEffect.begun es ++ LifecycleEffect.begun fs :=
  List.filterMap_append

theorem begun_retirements (rs : List Running) : LifecycleEffect.begun (retirements rs) = [] := by
  simp [begun, retirements]

theorem begun_clearing (l : Lifecycle) : LifecycleEffect.begun l.clearing = [] := by
  unfold clearing
  cases l.layer <;> simp [begun, retirements]

/-- A move begins no attempt, or one of a generation that is new. -/
theorem Move.begun (mv : Move env l ev l' ds e) :
    (LifecycleEffect.begun ds = [] ∧ l.generation ≤ l'.generation) ∨
      (LifecycleEffect.begun ds = [l'.generation] ∧ l.generation < l'.generation) := by
  cases mv with
  | ignored | kept | ended | failed | unheard | lost => exact .inl ⟨rfl, Nat.le_refl _⟩
  | unasked => exact .inl ⟨rfl, Nat.le_refl _⟩
  | @discarded generation result stale =>
    refine .inl ⟨?_, Nat.le_refl _⟩
    cases result <;> rfl
  | deactivated on off =>
    refine .inl ⟨?_, Nat.le_succ _⟩
    rw [begun_append, begun_clearing]
    split <;> rfl
  | rested on active idle =>
    refine .inl ⟨begun_retirements _, ?_⟩
    show l.generation ≤ if l.connecting.isSome = true then l.generation + 1 else l.generation
    split
    · exact Nat.le_succ _
    · exact Nat.le_refl _
  | untrusted on active busy unsuited refused => exact .inl ⟨begun_clearing l, Nat.le_succ _⟩
  | dialled on active busy unsuited loaded =>
    refine .inr ⟨?_, Nat.lt_succ_self _⟩
    rw [begun_append, begun_clearing]
    rfl
  | closed on => exact .inl ⟨begun_clearing l, Nat.le_succ _⟩
  | severed on ours bears => exact .inl ⟨begun_retirements _, Nat.le_refl _⟩
  | served active busy running held suits differs serve =>
    obtain ⟨-, -, h3, -, h5⟩ := serve.frame
    exact .inl ⟨h5, Nat.le_of_eq h3.symm⟩
  | accepted connecting asked taken serve =>
    obtain ⟨-, -, h3, -, h5⟩ := serve.frame
    exact .inl ⟨h5, Nat.le_of_eq h3.symm⟩

theorem Move.generation_le (mv : Move env l ev l' ds e) : l.generation ≤ l'.generation := by
  rcases mv.begun with ⟨-, h⟩ | ⟨-, h⟩
  · exact h
  · exact Nat.le_of_lt h

/-! ## What is past stays past -/

theorem Move.past {generation : Nat} (h : l.Agreement) (past : l.Past generation)
    (mv : Move env l ev l' ds e) : l'.Past generation := by
  obtain ⟨hle, hnot⟩ := past
  refine ⟨Nat.le_trans hle mv.generation_le, ?_⟩
  obtain ⟨hlayer, hattempt⟩ := concerns_eq_false.1 hnot
  cases mv with
  | ignored | ended | discarded | unheard | kept => exact hnot
  | deactivated | untrusted | closed | severed => exact concerns_of_bare rfl rfl
  | dialled on active busy unsuited loaded =>
    -- the attempt that begins is of a generation that was never reached before
    rw [concerns_eq_false]
    refine ⟨fun _ hl => (nomatch hl), fun _ => ?_⟩
    show l.generation + 1 ≠ generation
    omega
  | rested | failed | unasked => exact concerns_eq_false.2 ⟨hlayer, fun hc => (nomatch hc)⟩
  | lost => exact concerns_eq_false.2 ⟨fun _ hl => (nomatch hl), hattempt⟩
  | served active busy running held suits differs serve =>
    obtain ⟨h1, h2, h3, -⟩ := serve.frame
    rw [concerns_eq_false, h1, h2, h3]
    exact ⟨hlayer, hattempt⟩
  | accepted connecting asked taken serve =>
    obtain ⟨h1, h2, h3, -⟩ := serve.frame
    rw [concerns_eq_false, h1, h2, h3]
    refine ⟨?_, fun hc => (nomatch hc)⟩
    -- the session that is taken over is of the generation of the attempt, which is not past
    intro layer hl
    cases hl
    rw [taken]
    exact hattempt (h.attempting.1 connecting)

/-- An event of a generation that is past changes nothing, and closes the session it carries. -/
theorem Move.inert {generation : Nat} (h : l.Agreement) (past : l.Past generation)
    (about : ev.generation? = some generation) (mv : Move env l ev l' ds e) :
    l' = l ∧ ds = ev.carried.map .closeSession ∧ e = none := by
  have hnot : ∀ g, ev.generation? = some g → l.concerns g ≠ true := by
    intro g hg hc
    rw [about] at hg
    cases hg
    rw [past.2] at hc
    cases hc
  -- a result of the current generation that is past finds no attempt
  have quiet : ∀ result, ev = .opened l.generation result → l.state ≠ .connecting := by
    intro result hev connecting
    refine hnot l.generation (by rw [hev]; rfl) (concerns_eq_true.2 (.inr ⟨?_, rfl⟩))
    exact h.attempting.1 connecting
  cases mv with
  | ignored | deactivated | rested | kept | served | untrusted | dialled | ended | closed => cases about
  | discarded stale => exact ⟨rfl, rfl, rfl⟩
  | unheard stale => exact ⟨rfl, rfl, rfl⟩
  | failed connecting | unasked connecting | accepted connecting => exact absurd connecting (quiet _ rfl)
  | lost on ours | severed on ours => exact absurd ours (hnot _ rfl)

/-! ## What ends a generation -/

theorem concerns_of_stopped {l : Lifecycle} {generation : Nat} (h : l.Agreement) (ended : l.state = .stopped) :
    l.concerns generation = false :=
  concerns_of_bare (h.stopped ended) (h.connecting_eq_none (by rw [ended]; nofun))

/-- The events that end a generation are exactly those after which neither the held session nor the
attempt under way is of it. -/
theorem Move.ends_iff {generation : Nat} (h : l.Agreement) (hc : l.Current)
    (ours : l.concerns generation = true) (mv : Move env l ev l' ds e) :
    l'.concerns generation = false ↔ l.Ends ev := by
  have on : l.state ≠ .stopped := fun ended => by rw [concerns_of_stopped h ended] at ours; cases ours
  have hg : generation = l.generation := by
    rcases concerns_eq_true.1 ours with ⟨layer, hl, hlg⟩ | ⟨-, hlg⟩
    · rw [← hlg, hc layer hl]
    · exact hlg.symm
  -- a move that keeps the session and the attempt is no end, and no event that ends makes one
  have stays : l'.concerns generation = true → ¬ l.Ends ev → (l'.concerns generation = false ↔ l.Ends ev) :=
    fun ht hn => iff_of_false (by rw [ht]; nofun) hn
  cases mv with
  | ignored ended | ended ended => exact absurd ended on
  | deactivated _ off => exact iff_of_true (concerns_of_bare rfl rfl) (.deactivated off)
  | rested _ active idle =>
    cases ha : l.connecting with
    | none =>
      refine stays (concerns_eq_true.2 (.inl ?_)) fun hends => ?_
      · rcases concerns_eq_true.1 ours with hlayer | ⟨hattempt, -⟩
        · exact hlayer
        · rw [ha] at hattempt; cases hattempt
      · cases hends with
        | replaced _ busy => rw [idle] at busy; cases busy
        | abandoned _ _ connecting =>
          have := h.attempting.1 connecting
          rw [ha] at this; cases this
        | deactivated off => rw [active] at off; cases off
    | some a =>
      -- no session is held while the attempt is under way
      refine iff_of_true (concerns_of_bare ?_ rfl) (.abandoned active idle (h.attempting.2 (by rw [ha]; rfl)))
      exact (h.attempt a ha).2
  | kept active busy suits =>
    refine stays ours fun hends => ?_
    cases hends with
    | replaced _ _ unsuited => exact unsuited suits
    | abandoned _ idle => rw [busy] at idle; cases idle
    | deactivated off => rw [active] at off; cases off
  | served active busy running held suits _ serve =>
    obtain ⟨h1, h2, h3, -⟩ := serve.frame
    refine stays ?_ fun hends => ?_
    · rw [concerns_eq_true, h1, h2, h3]
      exact concerns_eq_true.1 ours
    · cases hends with
      | replaced _ _ unsuited => exact unsuited (.inr ⟨running, by rw [held]; exact suits⟩)
      | abandoned _ idle => rw [busy] at idle; cases idle
      | deactivated off => rw [active] at off; cases off
  | untrusted _ active busy unsuited =>
    exact iff_of_true (concerns_of_bare rfl rfl) (.replaced active busy unsuited)
  | dialled _ active busy unsuited =>
    refine iff_of_true (concerns_eq_false.2 ⟨fun _ hl => (nomatch hl), fun _ => ?_⟩)
      (.replaced active busy unsuited)
    rw [hg]
    exact Nat.succ_ne_self _
  | closed => exact iff_of_true (concerns_of_bare rfl rfl) .closed
  | discarded stale =>
    refine stays ours fun hends => ?_
    cases hends with
    | failed connecting => exact stale.elim (absurd rfl) (absurd connecting)
  | failed connecting =>
    obtain ⟨-, -, -, -, -, hl⟩ := h.of_connecting connecting
    exact iff_of_true (concerns_of_bare hl rfl) (.failed connecting)
  | unasked connecting absent =>
    obtain ⟨-, m, -, hm, -, -⟩ := h.of_connecting connecting
    rw [absent] at hm
    cases hm
  | accepted connecting asked taken serve =>
    obtain ⟨h1, -⟩ := serve.frame
    refine stays (concerns_eq_true.2 (.inl ⟨_, h1, ?_⟩)) fun hends => nomatch hends
    rw [taken, hg]
  | unheard stale =>
    refine stays ours fun hends => ?_
    cases hends with
    | reported hours => exact stale.elim on fun hn => by rw [hn] at hours; cases hours
  | lost _ hours _ unattempted =>
    exact iff_of_true (concerns_of_bare rfl (h.connecting_eq_none unattempted)) (.reported hours)
  | severed _ hours => exact iff_of_true (concerns_of_bare rfl rfl) (.reported hours)

/-! ## Accepted results -/

theorem Move.connecting (mv : Move env l ev l' ds e) (hs : l'.state = .connecting) :
    (l.state = .connecting ∧ l'.generation = l.generation) ∨ l.generation < l'.generation := by
  cases mv with
  | ignored | ended | discarded | unheard | kept => exact .inl ⟨hs, rfl⟩
  | lost => exact .inl ⟨hs, rfl⟩
  | dialled => exact .inr (Nat.lt_succ_self _)
  | deactivated | rested | untrusted | closed | failed | unasked | severed => cases hs
  | served _ _ _ _ _ _ serve | accepted _ _ _ serve =>
    obtain ⟨-, -, -, h4, -⟩ := serve.frame
    rw [hs] at h4
    exact h4.elim nofun nofun

theorem Move.horizon_le (mv : Move env l ev l' ds e) : l.horizon ≤ l'.horizon := by
  have hge : l.generation ≤ l'.generation := mv.generation_le
  unfold horizon
  by_cases hs : l'.state = .connecting
  · rw [if_pos hs]
    rcases mv.connecting hs with ⟨hl, hg⟩ | hlt
    · refine Nat.le_of_eq ?_
      rw [if_pos hl, hg]
    · split <;> omega
  · rw [if_neg hs]
    split <;> omega

theorem accepts_eq_some {l : Lifecycle} {ev : LifecycleEvent} {generation : Nat} :
    l.accepts ev = some generation ↔
      (∃ result, ev = .opened l.generation result) ∧ l.state = .connecting ∧ generation = l.generation := by
  cases ev with
  | opened g result =>
    simp only [accepts, Option.ite_none_right_eq_some, Option.some.injEq]
    constructor
    · rintro ⟨⟨rfl, hs⟩, rfl⟩
      exact ⟨⟨result, rfl⟩, hs, rfl⟩
    · rintro ⟨⟨_, hev⟩, hs, rfl⟩
      cases hev
      exact ⟨⟨rfl, hs⟩, rfl⟩
  | reconfigure m | close | notified g n =>
    simp only [accepts, reduceCtorEq, exists_const, false_and]

/-- A result is accepted only once: the generation is then below the horizon. -/
theorem Move.horizon_of_accepts {generation : Nat} (mv : Move env l ev l' ds e)
    (accepted : l.accepts ev = some generation) :
    l.horizon ≤ generation ∧ generation < l'.horizon := by
  obtain ⟨⟨result, rfl⟩, hs, rfl⟩ := accepts_eq_some.1 accepted
  have hlow : l.horizon = l.generation := if_pos hs
  refine ⟨Nat.le_of_eq hlow, ?_⟩
  have hhigh : l'.state ≠ .connecting → l'.generation = l.generation → l.generation < l'.horizon := by
    intro hs' hg
    unfold horizon
    rw [if_neg hs', hg]
    exact Nat.lt_succ_self _
  cases mv with
  | discarded stale => exact stale.elim (absurd rfl) (absurd hs)
  | failed | unasked => exact hhigh nofun rfl
  | accepted _ _ _ serve =>
    obtain ⟨-, -, h3, h4, -⟩ := serve.frame
    exact hhigh (by rcases h4 with h4 | h4 <;> rw [h4] <;> nofun) h3

/-! ## Runs -/

theorem acceptances_increasing (l : Lifecycle) (evs : List (Surroundings × LifecycleEvent)) :
    (∀ g ∈ l.acceptances evs, l.horizon ≤ g) ∧ (l.acceptances evs).Pairwise (· < ·) := by
  induction evs generalizing l with
  | nil => exact ⟨nofun, .nil⟩
  | cons p rest ih =>
    obtain ⟨env, ev⟩ := p
    -- what is accepted later is not below the horizon after this event, and what it accepts itself is
    obtain ⟨hlow, hinc⟩ := ih (l.step env ev).life
    have mv := move_step env l ev
    unfold acceptances
    cases ha : l.accepts ev with
    | none => exact ⟨fun g hg => Nat.le_trans mv.horizon_le (hlow g hg), hinc⟩
    | some g =>
      obtain ⟨h1, h2⟩ := mv.horizon_of_accepts ha
      refine ⟨?_, List.pairwise_cons.2 ⟨fun g' hg' => Nat.lt_of_lt_of_le h2 (hlow g' hg'), hinc⟩⟩
      intro g' hg'
      rcases List.mem_cons.1 hg' with rfl | hg'
      · exact h1
      · exact Nat.le_trans mv.horizon_le (hlow g' hg')

theorem begun_deeds (es : List LifecycleEffect) :
    LifecycleEffect.begun (LifecycleEffect.deeds es) = LifecycleEffect.begun es :=
  filterMap_deeds (fun _ => rfl) (fun _ => rfl) es

theorem run_begun (l : Lifecycle) (evs : List (Surroundings × LifecycleEvent)) :
    l.generation ≤ (l.run evs).life.generation ∧
      (∀ g ∈ LifecycleEffect.begun (l.run evs).effects,
        l.generation < g ∧ g ≤ (l.run evs).life.generation) ∧
      (LifecycleEffect.begun (l.run evs).effects).Pairwise (· < ·) := by
  induction evs generalizing l with
  | nil => exact ⟨Nat.le_refl _, nofun, .nil⟩
  | cons p rest ih =>
    obtain ⟨env, ev⟩ := p
    obtain ⟨hle, hmem, hinc⟩ := ih (l.step env ev).life
    have hrun : LifecycleEffect.begun (l.run ((env, ev) :: rest)).effects =
        LifecycleEffect.begun (l.step env ev).deeds ++
          LifecycleEffect.begun ((l.step env ev).life.run rest).effects := by
      rw [Course.deeds, begun_deeds, ← begun_append]
      rfl
    rw [hrun]
    show l.generation ≤ ((l.step env ev).life.run rest).life.generation ∧
      (∀ g ∈ _, l.generation < g ∧ g ≤ ((l.step env ev).life.run rest).life.generation) ∧ _
    rcases (move_step env l ev).begun with ⟨hb, hg⟩ | ⟨hb, hg⟩
    · rw [hb, List.nil_append]
      exact ⟨Nat.le_trans hg hle, fun g h => ⟨Nat.lt_of_le_of_lt hg (hmem g h).1, (hmem g h).2⟩, hinc⟩
    · rw [hb, List.singleton_append]
      refine ⟨by omega, ?_, List.pairwise_cons.2 ⟨fun g h => (hmem g h).1, hinc⟩⟩
      intro g h
      rcases List.mem_cons.1 h with rfl | h
      · exact ⟨hg, hle⟩
      · exact ⟨Nat.lt_trans hg (hmem g h).1, (hmem g h).2⟩

theorem run_current {l : Lifecycle} (h : l.Agreement) (hc : l.Current)
    (evs : List (Surroundings × LifecycleEvent)) : (l.run evs).life.Current := by
  induction evs generalizing l with
  | nil => exact hc
  | cons p rest ih =>
    obtain ⟨env, ev⟩ := p
    exact ih (step_agreement env ev h) ((move_step env l ev).current h hc)

theorem run_past {l : Lifecycle} {generation : Nat} (h : l.Agreement) (past : l.Past generation)
    (evs : List (Surroundings × LifecycleEvent)) : (l.run evs).life.Past generation := by
  induction evs generalizing l with
  | nil => exact past
  | cons p rest ih =>
    obtain ⟨env, ev⟩ := p
    exact ih (step_agreement env ev h) ((move_step env l ev).past h past)

/-- Events of a generation that is past leave the lifecycle as it is, however many there are. -/
theorem run_inert {l : Lifecycle} {generation : Nat} (h : l.Agreement) (past : l.Past generation)
    (evs : List (Surroundings × LifecycleEvent)) (about : ∀ p ∈ evs, p.2.generation? = some generation) :
    (l.run evs).life = l ∧
      (l.run evs).deeds = evs.flatMap fun p => p.2.carried.map .closeSession := by
  induction evs with
  | nil => exact ⟨rfl, rfl⟩
  | cons p rest ih =>
    obtain ⟨env, ev⟩ := p
    obtain ⟨h1, h2, -⟩ := (move_step env l ev).inert h past (about _ (List.mem_cons_self ..))
    obtain ⟨h3, h4⟩ := ih fun p hp => about p (List.mem_cons_of_mem _ hp)
    unfold run
    rw [Course.andThen_life, Course.andThen_deeds, h1, h2, h3, h4]
    exact ⟨rfl, rfl⟩

/-- Connections that have been superseded never act again. In every run the attempts carry strictly
increasing generations, the held session is of the current one, and no two accepted results are of
one generation. The attempt or the session of a generation ends by exactly the events that replace,
abandon, fail, report or drop it; and from then on, in every later state, results and reports of that
generation, in any order and any number of times, change nothing and only close the sessions that
they carry. -/
theorem superseded_connections_inert (shutdownAwaited observed : Bool)
    (evs : List (Surroundings × LifecycleEvent)) :
    let c := (fresh shutdownAwaited observed).run evs
    (LifecycleEffect.begun c.effects).Pairwise (· < ·) ∧
    (∀ layer, c.life.layer = some layer → layer.generation = c.life.generation) ∧
    ((fresh shutdownAwaited observed).acceptances evs).Nodup ∧
    (∀ generation, c.life.concerns generation = true → ∀ env ev,
      (c.life.step env ev).life.concerns generation = false ↔ c.life.Ends ev) ∧
    (∀ generation ∈ LifecycleEffect.begun c.effects, c.life.concerns generation = false →
      ∀ later late : List (Surroundings × LifecycleEvent),
        (∀ p ∈ late, p.2.generation? = some generation) →
        ((c.life.run later).life.run late).life = (c.life.run later).life ∧
        ((c.life.run later).life.run late).deeds =
          late.flatMap fun p => p.2.carried.map .closeSession) := by
  intro c
  have h : c.life.Agreement := run_agreement (fresh_agreement shutdownAwaited observed) evs
  have hc : c.life.Current :=
    run_current (fresh_agreement shutdownAwaited observed) (fresh_current shutdownAwaited observed) evs
  obtain ⟨-, hmem, hinc⟩ := run_begun (fresh shutdownAwaited observed) evs
  refine ⟨hinc, hc, ?_, ?_, ?_⟩
  · exact (acceptances_increasing _ evs).2.imp Nat.ne_of_lt
  · intro generation ours env ev
    exact (move_step env c.life ev).ends_iff h hc ours
  · intro generation hg hnot later late about
    have past : c.life.Past generation := ⟨(hmem generation hg).2, hnot⟩
    exact run_inert (run_agreement h later) (run_past h past later) late about

end Lifecycle

end TopicRelay.Control
