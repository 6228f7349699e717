/-
Fixed delays, exactly. The executions of recurring work begin when they should, however long they take
and however seldom somebody looks: the first after the initial delay, and each later one a fixed delay
after the end of the one before. So what has been shown of the work at any time is the beginning of one
score, which the durations alone determine, and once the work is cancelled nothing is added to it.

The invariant is `Scored`: a number of executions are over, and the work rests until the next is to
begin or works until it is to end.
-/
import Mathlib.Algebra.BigOperators.Group.Finset.Basic
import Mathlib.Algebra.Order.BigOperators.Group.Finset
import TopicRelay.Simulation.Recurring

namespace TopicRelay.Time

open Finset

variable {origin delay : Nat} {d d' : Nat → Nat} {n k : Nat} {p : Pause} {beats : List Beat}

/-! ## The score -/

/-- When the execution of a number begins: the executions before it have taken their durations, and each
was followed by the delay. -/
def beginning (origin delay : Nat) (d : Nat → Nat) (n : Nat) : Nat :=
  origin + ∑ i ∈ range n, (d i + delay)

/-- The beats of the first so many executions. -/
def score (origin delay : Nat) (d : Nat → Nat) (n : Nat) : List Beat :=
  (List.range n).flatMap fun i =>
    [.started (beginning origin delay d i), .ended (beginning origin delay d i + d i)]

/-- The time of a beat. -/
def Beat.time : Beat → Nat
  | .started t => t
  | .ended t => t

/-- How many executions are under way. -/
def Pause.underWay : Pause → Nat
  | .resting _ => 0
  | .working _ => 1

/-- So many executions are over, and the work rests until the next begins or works until it ends. -/
inductive Scored (origin delay : Nat) (d : Nat → Nat) (n : Nat) : Pause → List Beat → Prop
  | rests : Scored origin delay d n (.resting (beginning origin delay d n)) (score origin delay d n)
  | works : Scored origin delay d n (.working (beginning origin delay d n + d n))
      (score origin delay d n ++ [.started (beginning origin delay d n)])

@[simp]
theorem beginning_zero (origin delay : Nat) (d : Nat → Nat) : beginning origin delay d 0 = origin := by
  simp [beginning]

theorem beginning_succ (origin delay : Nat) (d : Nat → Nat) (n : Nat) :
    beginning origin delay d (n + 1) = beginning origin delay d n + d n + delay := by
  unfold beginning
  rw [sum_range_succ]
  omega

@[simp]
theorem score_zero (origin delay : Nat) (d : Nat → Nat) : score origin delay d 0 = [] :=
  rfl

theorem score_succ (origin delay : Nat) (d : Nat → Nat) (n : Nat) :
    score origin delay d (n + 1) = score origin delay d n ++
      [.started (beginning origin delay d n), .ended (beginning origin delay d n + d n)] := by
  simp [score, List.range_succ]

theorem beginning_mono (origin delay : Nat) (d : Nat → Nat) : Monotone (beginning origin delay d) := by
  refine monotone_nat_of_le_succ fun n => ?_
  rw [beginning_succ]
  omega

/-- Of the durations, only those of earlier executions matter. -/
theorem beginning_congr (same : ∀ i < n, d i = d' i) :
    beginning origin delay d n = beginning origin delay d' n := by
  unfold beginning
  congr 1
  refine sum_congr rfl fun i hi => ?_
  rw [same i (mem_range.1 hi)]

theorem score_congr (same : ∀ i < n, d i = d' i) :
    score origin delay d n = score origin delay d' n := by
  induction n with
  | zero => rfl
  | succ n ih =>
    have before : ∀ i < n, d i = d' i := fun i hi => same i (Nat.lt_succ_of_lt hi)
    rw [score_succ, score_succ, ih before, beginning_congr before, same n (Nat.lt_succ_self n)]

theorem length_score (origin delay : Nat) (d : Nat → Nat) (n : Nat) :
    (score origin delay d n).length = 2 * n := by
  induction n with
  | zero => rfl
  | succ n ih =>
    rw [score_succ, List.length_append, ih]
    rfl

theorem started_mem_score (h : k < n) :
    .started (beginning origin delay d k) ∈ score origin delay d n :=
  List.mem_flatMap.2 ⟨k, List.mem_range.2 h, List.mem_cons_self ..⟩

theorem time_le_of_mem_score {b : Beat} (h : b ∈ score origin delay d n) :
    b.time ≤ beginning origin delay d n := by
  obtain ⟨i, hi, hb⟩ := List.mem_flatMap.1 h
  have next := beginning_mono origin delay d (Nat.succ_le_of_lt (List.mem_range.1 hi))
  rw [Nat.succ_eq_add_one, beginning_succ] at next
  rcases List.mem_pair.1 hb with rfl | rfl
  · exact Nat.le_trans (by show beginning origin delay d i ≤ _; omega) next
  · exact Nat.le_trans (by show beginning origin delay d i + d i ≤ _; omega) next

/-- One execution is over before the next begins. -/
theorem score_in_order (origin delay : Nat) (d : Nat → Nat) (n : Nat) :
    (score origin delay d n).Pairwise fun b c => b.time ≤ c.time := by
  induction n with
  | zero => exact List.Pairwise.nil
  | succ n ih =>
    rw [score_succ, List.pairwise_append]
    refine ⟨ih, ?_, ?_⟩
    · simp [Beat.time]
    · rintro b hb c hc
      refine Nat.le_trans (time_le_of_mem_score hb) ?_
      rcases List.mem_pair.1 hc with rfl | rfl
      · exact Nat.le_refl _
      · exact Nat.le_add_right ..

namespace Scored

/-- The next execution begins, however long it will take. -/
theorem begins {due : Nat} (h : Scored origin delay d n (.resting due) beats) (duration : Nat) :
    Scored origin delay (Function.update d n duration) n (.working (due + duration))
      (beats ++ [.started due]) := by
  cases h with
  | rests =>
    have same : ∀ i < n, d i = Function.update d n duration i :=
      fun i hi => (Function.update_of_ne (Nat.ne_of_lt hi) ..).symm
    have next : Scored origin delay (Function.update d n duration) n _ _ := .works
    rwa [Function.update_self, ← beginning_congr same, ← score_congr same] at next

/-- The execution that is under way ends. -/
theorem ends {due : Nat} (h : Scored origin delay d n (.working due) beats) :
    Scored origin delay d (n + 1) (.resting (due + delay)) (beats ++ [.ended due]) := by
  cases h with
  | works =>
    have next : Scored origin delay d (n + 1) _ _ := .rests
    rwa [score_succ, beginning_succ, List.append_cons] at next

theorem length (h : Scored origin delay d n p beats) : beats.length = 2 * n + p.underWay := by
  cases h with
  | rests => exact length_score origin delay d n
  | works =>
    rw [List.length_append, length_score]
    rfl

theorem in_order (h : Scored origin delay d n p beats) :
    beats.Pairwise fun b c => b.time ≤ c.time := by
  cases h with
  | rests => exact score_in_order origin delay d n
  | works =>
    refine List.pairwise_append.2 ⟨score_in_order origin delay d n, List.pairwise_singleton _ _, ?_⟩
    intro b hb c hc
    obtain rfl := List.mem_singleton.1 hc
    exact time_le_of_mem_score hb

/-- What is due has begun: of so many beats, or once the work waits for something later. -/
theorem started_mem (h : Scored origin delay d n p beats)
    (far : 2 * k + 1 ≤ beats.length ∨ beginning origin delay d k < p.due) :
    .started (beginning origin delay d k) ∈ beats := by
  have hlength := h.length
  cases h with
  | rests =>
    refine started_mem_score (Nat.lt_of_not_le fun hle => ?_)
    have := beginning_mono origin delay d hle
    simp only [Pause.underWay, Pause.due] at hlength far
    omega
  | works =>
    rcases Nat.lt_trichotomy k n with hlt | rfl | hgt
    · exact List.mem_append_left _ (started_mem_score hlt)
    · exact List.mem_append_right _ (List.mem_singleton_self _)
    · have := beginning_mono origin delay d (Nat.succ_le_of_lt hgt)
      rw [Nat.succ_eq_add_one, beginning_succ] at this
      simp only [Pause.underWay, Pause.due] at hlength far
      omega

end Scored

/-! ## Runs -/

namespace FixedDelay

variable {w : FixedDelay}

/-- Lets the work run up to an instant, at most so many pauses, once for each of some visits. -/
def attend (durations : Nat → Nat) (w : FixedDelay) : List (Nat × Nat) → FixedDelay × List Beat
  | [] => (w, [])
  | (limit, fuel) :: rest =>
    let (w₁, beats) := w.runUntil durations limit fuel
    let (w₂, more) := w₁.attend durations rest
    (w₂, beats ++ more)

/-- Work that has shown some beats, all of them in time. -/
def Plays (origin delay : Nat) (d : Nat → Nat) (w : FixedDelay) (beats : List Beat) : Prop :=
  ∃ n, w.delay = delay ∧ w.begun = n + w.pause.underWay ∧ Scored origin delay d n w.pause beats

theorem plays_schedule (now initial delay : Nat) (d : Nat → Nat) :
    Plays (now + initial) delay d (schedule now initial delay) [] := by
  refine ⟨0, rfl, rfl, ?_⟩
  have h : Scored (now + initial) delay d 0 _ _ := .rests
  rwa [beginning_zero, score_zero] at h

/-- Past the end of a pause, the next beats of the score are shown. -/
theorem Plays.fire (h : Plays origin delay d w beats) :
    Plays origin delay d (w.fire d).1 (beats ++ (w.fire d).2) := by
  obtain ⟨n, rfl, begun, scored⟩ := h
  obtain ⟨delay, pause, number, cancelled⟩ := w
  dsimp only at begun scored ⊢
  subst begun
  cases pause with
  | resting t =>
    have begun : Scored origin delay d n (.working (t + d n)) (beats ++ [.started t]) := by
      have next := scored.begins (d n)
      rwa [Function.update_eq_self] at next
    unfold FixedDelay.fire
    dsimp only [Pause.underWay, Nat.add_zero]
    split
    · next none =>
      -- an execution without duration ends as it begins
      have ended := begun.ends
      rw [none, Nat.add_zero, List.append_assoc] at ended
      exact ⟨n + 1, rfl, rfl, ended⟩
    · exact ⟨n, rfl, rfl, begun⟩
  | working t => exact ⟨n + 1, rfl, rfl, scored.ends⟩

theorem Plays.runUntil (limit : Nat) : ∀ (fuel : Nat) {w : FixedDelay} {beats : List Beat},
    Plays origin delay d w beats →
      Plays origin delay d (w.runUntil d limit fuel).1 (beats ++ (w.runUntil d limit fuel).2)
  | 0, w, beats, h => by simpa [FixedDelay.runUntil] using h
  | fuel + 1, w, beats, h => by
    unfold FixedDelay.runUntil
    split
    · simpa using h
    · have later := Plays.runUntil limit fuel h.fire
      rwa [List.append_assoc] at later

theorem Plays.attend : ∀ (visits : List (Nat × Nat)) {w : FixedDelay} {beats : List Beat},
    Plays origin delay d w beats →
      Plays origin delay d (w.attend d visits).1 (beats ++ (w.attend d visits).2)
  | [], w, beats, h => by simpa [FixedDelay.attend] using h
  | (limit, fuel) :: rest, w, beats, h => by
    have later := Plays.attend rest (Plays.runUntil limit fuel h)
    rwa [List.append_assoc] at later

/-! ## When beats are shown -/

theorem time_of_mem_fire {b : Beat} (hb : b ∈ (w.fire d).2) : b.time = w.pause.due := by
  unfold fire at hb
  cases hp : w.pause with
  | resting t =>
    rw [hp] at hb
    dsimp only at hb
    split at hb
    · rcases List.mem_pair.1 hb with rfl | rfl <;> rfl
    · obtain rfl := List.mem_singleton.1 hb
      rfl
  | working t =>
    rw [hp] at hb
    obtain rfl := List.mem_singleton.1 hb
    rfl

/-- Nothing is shown before its time. -/
theorem time_le_of_mem_runUntil {limit : Nat} {b : Beat} : ∀ (fuel : Nat) {w : FixedDelay},
    b ∈ (w.runUntil d limit fuel).2 → b.time ≤ limit
  | 0, w, hb => by simp [runUntil] at hb
  | fuel + 1, w, hb => by
    unfold runUntil at hb
    split at hb
    · cases hb
    · next goes =>
      rcases List.mem_append.1 hb with hb | hb
      · rw [time_of_mem_fire hb]
        simp only [Bool.or_eq_true, decide_eq_true_eq, not_or, Nat.not_lt] at goes
        exact goes.2
      · exact time_le_of_mem_runUntil fuel hb

theorem cancelled_fire (w : FixedDelay) : (w.fire d).1.cancelled = w.cancelled := by
  unfold fire
  split
  · rfl
  · dsimp only
    split <;> rfl

theorem length_fire (w : FixedDelay) : 1 ≤ (w.fire d).2.length := by
  unfold fire
  split
  · exact Nat.le_refl _
  · dsimp only
    split
    · exact Nat.le_succ _
    · exact Nat.le_refl _

/-- Work that has not been cancelled shows as many beats as there are pauses to go through, or waits for
something later. -/
theorem length_runUntil (limit : Nat) : ∀ (fuel : Nat) {w : FixedDelay}, w.cancelled = false →
    fuel ≤ (w.runUntil d limit fuel).2.length ∨ limit < (w.runUntil d limit fuel).1.pause.due
  | 0, w, _ => .inl (Nat.zero_le _)
  | fuel + 1, w, goes => by
    unfold runUntil
    split
    · next waits =>
      right
      simpa [goes] using waits
    · have more := length_runUntil limit fuel ((cancelled_fire w (d := d)).trans goes)
      have first := length_fire w (d := d)
      rcases more with more | late
      · left
        rw [List.length_append]
        omega
      · exact .inr late

theorem cancelled_runUntil (limit : Nat) : ∀ (fuel : Nat) (w : FixedDelay),
    (w.runUntil d limit fuel).1.cancelled = w.cancelled
  | 0, _ => rfl
  | fuel + 1, w => by
    unfold runUntil
    split
    · rfl
    · exact (cancelled_runUntil limit fuel _).trans (cancelled_fire w)

theorem cancelled_attend : ∀ (visits : List (Nat × Nat)) (w : FixedDelay),
    (w.attend d visits).1.cancelled = w.cancelled
  | [], _ => rfl
  | (limit, fuel) :: rest, w =>
    (cancelled_attend rest _).trans (cancelled_runUntil limit fuel w)

theorem attend_append (visits more : List (Nat × Nat)) (w : FixedDelay) :
    w.attend d (visits ++ more) =
      ((w.attend d visits).1.attend d more |>.1,
        (w.attend d visits).2 ++ ((w.attend d visits).1.attend d more).2) := by
  induction visits generalizing w with
  | nil => rfl
  | cons v rest ih =>
    obtain ⟨limit, fuel⟩ := v
    simp only [List.cons_append, attend, ih, List.append_assoc]

/-! ## Cancelled work -/

/-- Work that has been cancelled stays as it is. -/
theorem runUntil_of_cancelled (gone : w.cancelled = true) (limit fuel : Nat) :
    w.runUntil d limit fuel = (w, []) := by
  cases fuel with
  | zero => rfl
  | succ fuel =>
    unfold runUntil
    rw [if_pos (by rw [gone, Bool.true_or])]

theorem attend_of_cancelled (gone : w.cancelled = true) (visits : List (Nat × Nat)) :
    w.attend d visits = (w, []) := by
  induction visits with
  | nil => rfl
  | cons v rest ih =>
    obtain ⟨limit, fuel⟩ := v
    simp only [attend, runUntil_of_cancelled gone, ih, List.append_nil]

/-- The schedule of recurring work, exactly. However often and up to whenever the work is let run: it
has shown the beats of a number of executions that are over and, if one is under way, its begin, in
order; each visit shows nothing that comes after it, and an execution has begun by the first visit that
comes after its time and goes through enough pauses. Once it is cancelled, nothing is shown any more,
and the work does not leave the pause in which it was. -/
theorem schedule_plays_score (now initial delay : Nat) (d : Nat → Nat) (visits : List (Nat × Nat)) :
    let w := schedule now initial delay
    let origin := now + initial
    let seen := w.attend d visits
    (∃ n, Scored origin delay d n seen.1.pause seen.2) ∧
    seen.2.Pairwise (fun b c => b.time ≤ c.time) ∧
    (∀ limit fuel, ∀ b ∈ (seen.1.runUntil d limit fuel).2, b.time ≤ limit) ∧
    (∀ limit fuel k, beginning origin delay d k ≤ limit → 2 * k + 1 ≤ fuel →
      .started (beginning origin delay d k) ∈ (w.attend d (visits ++ [(limit, fuel)])).2) ∧
    ∀ later, seen.1.cancel.attend d later = (seen.1.cancel, []) := by
  intro w origin seen
  have plays := Plays.attend visits (plays_schedule now initial delay d)
  rw [List.nil_append] at plays
  obtain ⟨n, -, -, scored⟩ := plays
  refine ⟨⟨n, scored⟩, scored.in_order, ?_, ?_, ?_⟩
  · intro limit fuel b hb
    exact time_le_of_mem_runUntil fuel hb
  · intro limit fuel k hk hfuel
    have plays := Plays.attend (visits ++ [(limit, fuel)]) (plays_schedule now initial delay d)
    rw [List.nil_append] at plays
    obtain ⟨m, -, -, scored⟩ := plays
    refine scored.started_mem ?_
    have goes : seen.1.cancelled = false := cancelled_attend visits w
    rw [attend_append]
    simp only [attend, List.append_nil, List.length_append]
    rcases length_runUntil limit fuel goes with long | late
    · exact .inl (Nat.le_trans hfuel (Nat.le_trans long (Nat.le_add_left ..)))
    · exact .inr (Nat.lt_of_le_of_lt hk late)
  · intro later
    exact attend_of_cancelled rfl later

end FixedDelay

end TopicRelay.Time

namespace TopicRelay.Simulation.Recurring

open TopicRelay.Time

/-- Takes commands one after the other, each of them followed by a settling or not. -/
def obeyAll (r : Recurring) : List (RecurringCommand × Bool) → Recurring × List Beat
  | [] => (r, [])
  | (c, settled) :: rest =>
    let (r₁, beats) := r.obey c settled
    let (r₂, more) := r₁.obeyAll rest
    (r₂, beats ++ more)

/-- Work that has been cancelled shows nothing when time passes. -/
theorem runUntil_of_cancelled {r : Recurring} (gone : r.work.cancelled = true) (limit : Nat) :
    r.runUntil limit = ({ r with now := limit, finished := true }, []) := by
  unfold runUntil
  rw [FixedDelay.runUntil_of_cancelled gone]
  simp only [gone]

/-- After a command that shows nothing and leaves the work cancelled, nothing is shown either. -/
theorem obey_of_silent {r : Recurring} {c : RecurringCommand}
    (silent : ({ r with work := { r.work with begun := 0 } }.command c).2 = [])
    (gone : ({ r with work := { r.work with begun := 0 } }.command c).1.work.cancelled = true)
    (pause : ({ r with work := { r.work with begun := 0 } }.command c).1.work.pause = r.work.pause)
    (settled : Bool) :
    (r.obey c settled).2 = [] ∧ (r.obey c settled).1.work.cancelled = true ∧
      (r.obey c settled).1.work.pause = r.work.pause := by
  unfold obey
  generalize { r with work := { r.work with begun := 0 } }.command c = out at silent gone pause ⊢
  obtain ⟨r₁, beats⟩ := out
  obtain rfl : beats = [] := silent
  cases settled with
  | true =>
    simp only [settle, runUntil_of_cancelled gone, if_true, List.append_nil]
    exact ⟨trivial, gone, pause⟩
  | false => exact ⟨rfl, gone, pause⟩

theorem obey_of_cancelled {r : Recurring} (gone : r.work.cancelled = true) (c : RecurringCommand)
    (settled : Bool) :
    (r.obey c settled).2 = [] ∧ (r.obey c settled).1.work.cancelled = true ∧
      (r.obey c settled).1.work.pause = r.work.pause := by
  cases c with
  | advance ms =>
    have elapsed : { r with work := { r.work with begun := 0 } }.command (.advance ms) =
        ({ r with now := r.now + ms, work := { r.work with begun := 0 }, finished := true }, []) := by
      simp only [Recurring.command, settle]
      rw [runUntil_of_cancelled (r := { r with work := { r.work with begun := 0 } }) gone]
      dsimp only
      rw [runUntil_of_cancelled (r := { r with work := { r.work with begun := 0 }, finished := true }) gone]
      rfl
    exact obey_of_silent (by rw [elapsed]) (by rw [elapsed]; exact gone) (by rw [elapsed]) settled
  | cancel => exact obey_of_silent (r := r) (c := .cancel) rfl rfl rfl settled
  | drop => exact obey_of_silent (r := r) (c := .drop) rfl rfl rfl settled
  | spawn => exact obey_of_silent (r := r) (c := .spawn) rfl gone rfl settled

/-- Work is cancelled by a command to that end, and when its handle is dropped. -/
theorem obey_release (r : Recurring) {release : RecurringCommand}
    (released : release = .cancel ∨ release = .drop) (settled : Bool) :
    (r.obey release settled).2 = [] ∧ (r.obey release settled).1.work.cancelled = true ∧
      (r.obey release settled).1.work.pause = r.work.pause := by
  rcases released with rfl | rfl
  · exact obey_of_silent (r := r) (c := .cancel) rfl rfl rfl settled
  · exact obey_of_silent (r := r) (c := .drop) rfl rfl rfl settled

theorem obeyAll_cons (r : Recurring) (c : RecurringCommand) (settled : Bool)
    (rest : List (RecurringCommand × Bool)) :
    r.obeyAll ((c, settled) :: rest) = (((r.obey c settled).1.obeyAll rest).1,
      (r.obey c settled).2 ++ ((r.obey c settled).1.obeyAll rest).2) :=
  rfl

/-- Once it is cancelled, whatever is done afterwards, nothing more is shown of the work, and it does not
leave its pause. -/
theorem still_of_cancelled : ∀ (later : List (RecurringCommand × Bool)) {r : Recurring},
    r.work.cancelled = true →
      (r.obeyAll later).2 = [] ∧ (r.obeyAll later).1.work.pause = r.work.pause
  | [], _, _ => ⟨rfl, rfl⟩
  | (c, settled) :: rest, r, gone => by
    obtain ⟨silent, gone', pause⟩ := obey_of_cancelled gone c settled
    obtain ⟨quiet, stays⟩ := still_of_cancelled rest gone'
    rw [obeyAll_cons, silent, quiet]
    exact ⟨rfl, stays.trans pause⟩

theorem still_of_released (r : Recurring) {release : RecurringCommand}
    (released : release = .cancel ∨ release = .drop) (settled : Bool)
    (later : List (RecurringCommand × Bool)) :
    (r.obeyAll ((release, settled) :: later)).2 = [] ∧
      (r.obeyAll ((release, settled) :: later)).1.work.pause = r.work.pause := by
  obtain ⟨silent, gone, pause⟩ := obey_release r released settled
  obtain ⟨quiet, stays⟩ := still_of_cancelled later gone
  rw [obeyAll_cons, silent, quiet]
  exact ⟨rfl, stays.trans pause⟩

end TopicRelay.Simulation.Recurring
