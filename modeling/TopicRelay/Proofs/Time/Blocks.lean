/-
Timers in blocks. The timers of one task are set together and stand together, so that the timers of an
agenda are blocks, one of a task; an instant wakes the tasks of its blocks in their order. A neat agenda
is in order as far as that goes: everything that happens to an agenda keeps it neat.
-/
import TopicRelay.Time.Agenda
import Mathlib.Data.List.Nodup

namespace TopicRelay.Time.Agenda

variable {ω : Type}

/-! ## Blocks of timers -/

/-- The timers of tasks, those of one task together. -/
def timersOf (blocks : List (Nat × List Nat)) : List Timer :=
  blocks.flatMap fun b => b.2.map fun due => { due, task := b.1 }

/-- What is left of blocks after an instant. -/
def after (now : Nat) (blocks : List (Nat × List Nat)) : List (Nat × List Nat) :=
  (blocks.map fun b => (b.1, b.2.filter fun due => decide (now < due))).filter fun b => !b.2.isEmpty

/-- The tasks that blocks wake at an instant. -/
def woken (now : Nat) (blocks : List (Nat × List Nat)) : List Nat :=
  (blocks.filter fun b => b.2.any fun due => decide (due ≤ now)).map (·.1)

theorem mem_timersOf {blocks : List (Nat × List Nat)} {τ : Timer} :
    τ ∈ timersOf blocks ↔ ∃ dues, (τ.task, dues) ∈ blocks ∧ τ.due ∈ dues := by
  unfold timersOf
  rw [List.mem_flatMap]
  constructor
  · rintro ⟨⟨id, dues⟩, hb, hτ⟩
    obtain ⟨due, hdue, rfl⟩ := List.mem_map.1 hτ
    exact ⟨dues, hb, hdue⟩
  · rintro ⟨dues, hb, hdue⟩
    exact ⟨(τ.task, dues), hb, List.mem_map.2 ⟨τ.due, hdue, rfl⟩⟩

theorem timersOf_after (now : Nat) (blocks : List (Nat × List Nat)) :
    timersOf (after now blocks) = (timersOf blocks).filter fun τ => decide (now < τ.due) := by
  induction blocks with
  | nil => rfl
  | cons b rest ih =>
    obtain ⟨id, dues⟩ := b
    have own : (dues.map fun due => ({ due, task := id } : Timer)).filter
        (fun τ => decide (now < τ.due)) =
        (dues.filter fun due => decide (now < due)).map fun due => { due, task := id } := by
      rw [List.filter_map]
      rfl
    have split : timersOf ((id, dues) :: rest) =
        (dues.map fun due => { due, task := id }) ++ timersOf rest := by
      simp [timersOf]
    rw [split, List.filter_append, own, ← ih]
    unfold after
    rw [List.map_cons, List.filter_cons]
    cases hleft : dues.filter fun due => decide (now < due) with
    | nil => simp
    | cons due left => simp [timersOf]

theorem mem_after {now id : Nat} {dues : List Nat} {blocks : List (Nat × List Nat)} :
    (id, dues) ∈ after now blocks ↔
      dues ≠ [] ∧ ∃ all, (id, all) ∈ blocks ∧ dues = all.filter fun due => decide (now < due) := by
  unfold after
  rw [List.mem_filter, List.mem_map]
  constructor
  · rintro ⟨⟨⟨id', all⟩, hb, heq⟩, hne⟩
    cases heq
    exact ⟨by simpa using hne, all, hb, rfl⟩
  · rintro ⟨hne, all, hb, rfl⟩
    exact ⟨⟨(id, all), hb, rfl⟩, by simpa using hne⟩

theorem mem_woken {now id : Nat} {blocks : List (Nat × List Nat)} :
    id ∈ woken now blocks ↔ ∃ dues, (id, dues) ∈ blocks ∧ ∃ due ∈ dues, due ≤ now := by
  unfold woken
  simp only [List.mem_map, List.mem_filter, List.any_eq_true, decide_eq_true_eq, Prod.exists]
  constructor
  · rintro ⟨_, dues, ⟨hb, due⟩, rfl⟩
    exact ⟨dues, hb, due⟩
  · rintro ⟨dues, hb, due⟩
    exact ⟨id, dues, ⟨hb, due⟩, rfl⟩

theorem nodup_after {now : Nat} {blocks : List (Nat × List Nat)}
    (distinct : (blocks.map (·.1)).Nodup) : ((after now blocks).map (·.1)).Nodup := by
  have kept : ((blocks.map fun b =>
      (b.1, b.2.filter fun due => decide (now < due))).map (·.1)) = blocks.map (·.1) := by
    rw [List.map_map]
    rfl
  rw [← kept] at distinct
  exact distinct.sublist (List.filter_sublist.map _)

theorem nodup_woken {now : Nat} {blocks : List (Nat × List Nat)}
    (distinct : (blocks.map (·.1)).Nodup) : (woken now blocks).Nodup :=
  distinct.sublist (List.filter_sublist.map _)

/-! ## Firing -/

/-- A task is woken once, however many of its timers are due. -/
theorem foldl_wake_same (id : Nat) : ∀ (dues : List Nat) (a : Agenda ω), id ∈ a.queue →
    dues.foldl (fun a _ => a.wake id) a = a
  | [], _, _ => rfl
  | _ :: rest, a, h => by
    have still : a.wake id = a := by
      unfold wake
      rw [if_pos (by simpa using h)]
    rw [List.foldl_cons, still]
    exact foldl_wake_same id rest a h

theorem foldl_wake_block (id : Nat) (dues : List Nat) (a : Agenda ω) (new : id ∉ a.queue) :
    dues.foldl (fun a _ => a.wake id) a =
      { a with queue := a.queue ++ if dues.isEmpty then [] else [id] } := by
  cases dues with
  | nil => simp
  | cons due rest =>
    have first : a.wake id = { a with queue := a.queue ++ [id] } := by
      unfold wake
      rw [if_neg (by simpa using new)]
    rw [List.foldl_cons, first, foldl_wake_same id rest _ (by simp)]
    rfl

/-- Blocks wake their tasks in their order. -/
theorem foldl_wake_timers (now : Nat) : ∀ (blocks : List (Nat × List Nat)) (a : Agenda ω),
    (blocks.map (·.1)).Nodup → (∀ b ∈ blocks, b.1 ∉ a.queue) →
    ((timersOf blocks).filter fun τ => decide (τ.due ≤ now)).foldl (fun a τ => a.wake τ.task) a =
      { a with queue := a.queue ++ woken now blocks }
  | [], a, _, _ => by simp [timersOf, woken]
  | (id, dues) :: rest, a, distinct, new => by
    rw [List.map_cons, List.nodup_cons] at distinct
    have split : timersOf ((id, dues) :: rest) =
        (dues.map fun due => { due, task := id }) ++ timersOf rest := by
      simp [timersOf]
    have own : ((dues.map fun due => ({ due, task := id } : Timer)).filter
        fun τ => decide (τ.due ≤ now)).foldl (fun a τ => a.wake τ.task) a =
        (dues.filter fun due => decide (due ≤ now)).foldl (fun a _ => a.wake id) a := by
      rw [List.filter_map, List.foldl_map]
      rfl
    rw [split, List.filter_append, List.foldl_append, own,
      foldl_wake_block id _ a (new _ (List.mem_cons_self ..))]
    -- the tasks of the other blocks are others, so that this one being woken leaves them asleep
    rw [foldl_wake_timers now rest _ distinct.2]
    · unfold woken
      rw [List.filter_cons]
      cases hdue : dues.filter fun due => decide (due ≤ now) with
      | nil =>
        have none : (dues.any fun due => decide (due ≤ now)) = false := by
          simpa [List.filter_eq_nil_iff] using hdue
        simp [none]
      | cons due others =>
        have some : (dues.any fun due => decide (due ≤ now)) = true := by
          have : due ∈ dues.filter fun due => decide (due ≤ now) := by simp [hdue]
          rw [List.mem_filter] at this
          exact List.any_eq_true.2 ⟨due, this.1, this.2⟩
        simp [some]
    · intro b hb hqueue
      rcases List.mem_append.1 hqueue with hqueue | hid
      · exact new b (List.mem_cons_of_mem _ hb) hqueue
      · split at hid
        · cases hid
        · have same : b.1 = id := List.mem_singleton.1 hid
          exact distinct.1 (same ▸ List.mem_map.2 ⟨b, hb, rfl⟩)

theorem fire_timersOf {now : Nat} {blocks : List (Nat × List Nat)} {a : Agenda ω}
    (timers : a.timers = timersOf blocks) (distinct : (blocks.map (·.1)).Nodup)
    (idle : a.queue = []) :
    a.fire now = { a with timers := timersOf (after now blocks), queue := woken now blocks } := by
  unfold fire
  rw [timers, foldl_wake_timers now blocks _ distinct (by simp [idle]), timersOf_after]
  simp [idle]

/-! ## Tasks -/

theorem task?_of_mem {a : Agenda ω} (ids : (a.tasks.map (·.id)).Nodup) {t : Task ω}
    (ht : t ∈ a.tasks) : a.task? t.id = some t := by
  unfold task?
  rcases hf : a.tasks.find? (fun x => x.id == t.id) with _ | x
  · rw [List.find?_eq_none] at hf
    simpa using hf t ht
  · have hx := List.mem_of_find?_eq_some hf
    have he : x.id = t.id := by simpa using List.find?_some hf
    obtain rfl := List.inj_on_of_nodup_map ids hx ht he
    exact hf

/-! ## Changes of work -/

variable {a : Agenda ω}

theorem foldl_sleep (id : Nat) : ∀ (dues : List Nat) (a : Agenda ω),
    dues.foldl (fun a due => a.sleep id due) a =
      { a with timers := a.timers ++ dues.map fun due => { due, task := id } }
  | [], a => by simp
  | due :: rest, a => by
    rw [List.foldl_cons, foldl_sleep id rest]
    simp [sleep]

theorem timersOf_filter (id : Nat) (blocks : List (Nat × List Nat)) :
    timersOf (blocks.filter fun b => b.1 != id) =
      (timersOf blocks).filter fun τ => τ.task != id := by
  induction blocks with
  | nil => rfl
  | cons b rest ih =>
    have split : timersOf (b :: rest) =
        (b.2.map fun due => ({ due, task := b.1 } : Timer)) ++ timersOf rest := by
      simp [timersOf]
    rw [split, List.filter_append, ← ih, List.filter_cons, List.filter_map]
    by_cases heq : b.1 = id
    · simp [heq, Function.comp_def]
    · have other : (b.1 != id) = true := by simpa using heq
      simp [other, Function.comp_def, timersOf]

theorem map_id_setWork (id : Nat) (work : ω) (a : Agenda ω) :
    (a.setWork id work).tasks.map (·.id) = a.tasks.map (·.id) := by
  unfold setWork mapTask
  rw [List.map_map]
  refine List.map_congr_left fun t _ => ?_
  simp only [Function.comp]
  split <;> rfl

theorem mem_setWork {id : Nat} {work : ω} {t : Task ω} (ht : t ∈ (a.setWork id work).tasks) :
    ∃ x ∈ a.tasks, t.id = x.id ∧ (x.id ≠ id ∧ t = x ∨ x.id = id ∧ t.work = work) := by
  obtain ⟨x, hx, rfl⟩ := List.mem_map.1 ht
  refine ⟨x, hx, ?_⟩
  by_cases heq : x.id = id
  · simp [heq]
  · simp [heq]

theorem mem_setWork_other {id : Nat} {x : Task ω} (hx : x ∈ a.tasks) (hne : x.id ≠ id) (work : ω) :
    x ∈ (a.setWork id work).tasks :=
  List.mem_map.2 ⟨x, hx, by simp [hne]⟩

theorem mem_setWork_own {t : Task ω} (ht : t ∈ a.tasks) (work : ω) :
    { t with work } ∈ (a.setWork t.id work).tasks :=
  List.mem_map.2 ⟨t, ht, by simp⟩

/-! ## Neat agendas -/

variable {now : Nat} {blocks : List (Nat × List Nat)} {t : Task ω}

/-- The block of a task, if it has timers. -/
def block (id : Nat) (dues : List Nat) : List (Nat × List Nat) :=
  if dues.isEmpty then [] else [(id, dues)]

theorem mem_block {id : Nat} {dues : List Nat} {b : Nat × List Nat} :
    b ∈ block id dues ↔ dues ≠ [] ∧ b = (id, dues) := by
  cases dues <;> simp [block]

theorem timersOf_block (blocks : List (Nat × List Nat)) (id : Nat) (dues : List Nat) :
    timersOf (blocks ++ block id dues) =
      timersOf blocks ++ dues.map fun due => { due, task := id } := by
  cases dues <;> simp [block, timersOf]

/-- An agenda with timers in blocks: its tasks have numbers of their own, stand in the queue once at
most, and not at all while they run, and no timer is due. -/
structure Neat (now : Nat) (blocks : List (Nat × List Nat)) (a : Agenda ω) : Prop where
  ids : (a.tasks.map (·.id)).Nodup
  below : ∀ t ∈ a.tasks, t.id < a.nextId
  queue : a.queue.Nodup
  known : ∀ id ∈ a.queue, ∃ t ∈ a.tasks, t.id = id
  apart : ∀ id, a.current = some id → (∃ t ∈ a.tasks, t.id = id) ∧ id ∉ a.queue
  timers : a.timers = timersOf blocks
  distinct : (blocks.map (·.1)).Nodup
  held : ∀ b ∈ blocks, ∃ t ∈ a.tasks, t.id = b.1
  later : ∀ b ∈ blocks, ∀ due ∈ b.2, now < due

theorem known_setWork {id : Nat} (known : ∃ x ∈ a.tasks, x.id = id) (other : Nat) (work : ω) :
    ∃ x ∈ (a.setWork other work).tasks, x.id = id := by
  obtain ⟨x, hx, rfl⟩ := known
  rw [← List.mem_map, map_id_setWork]
  exact List.mem_map_of_mem hx

theorem mem_finish {id : Nat} {x : Task ω} :
    x ∈ (Agenda.finish id { a with current := none }).tasks ↔ x ∈ a.tasks ∧ x.id ≠ id := by
  simp [Agenda.finish]

namespace Neat

theorem empty (now : Nat) : Neat now [] ({} : Agenda ω) := by
  constructor <;> simp [timersOf]

section Laws

variable (h : Neat now blocks a)
include h

theorem unused : ∀ t ∈ a.tasks, t.id ≠ a.nextId :=
  fun t ht => Nat.ne_of_lt (h.below t ht)

theorem nextId_queue : a.nextId ∉ a.queue := by
  intro hid
  obtain ⟨t, ht, heq⟩ := h.known _ hid
  exact h.unused t ht heq

theorem nextId_blocks : ∀ b ∈ blocks, b.1 ≠ a.nextId := by
  intro b hb
  obtain ⟨t, ht, heq⟩ := h.held b hb
  rw [← heq]
  exact h.unused t ht

/-- The block of a task. -/
theorem block_unique {id : Nat} {dues others : List Nat} (hd : (id, dues) ∈ blocks)
    (ho : (id, others) ∈ blocks) : dues = others :=
  (Prod.mk.inj (List.inj_on_of_nodup_map h.distinct hd ho rfl)).2

theorem late_of_timer {τ : Timer} (hτ : τ ∈ a.timers) : now < τ.due := by
  rw [h.timers] at hτ
  obtain ⟨dues, hb, hdue⟩ := mem_timersOf.1 hτ
  exact h.later _ hb _ hdue

/-- A new task is added. -/
theorem spawn (work : ω) : Neat now blocks (a.spawn work) where
  ids := by
    show ((a.tasks ++ [({ id := a.nextId, work } : Task ω)]).map (·.id)).Nodup
    rw [List.map_append, List.map_singleton, ← List.concat_eq_append]
    refine h.ids.concat fun hmem => ?_
    obtain ⟨t, ht, heq⟩ := List.mem_map.1 hmem
    exact h.unused t ht heq
  below := by
    intro t ht
    rcases List.mem_append.1 ht with ht | ht
    · exact Nat.lt_succ_of_lt (h.below t ht)
    · obtain rfl := List.mem_singleton.1 ht
      exact Nat.lt_succ_self _
  queue := by
    show (a.queue ++ [a.nextId]).Nodup
    rw [← List.concat_eq_append]
    exact h.queue.concat h.nextId_queue
  known := by
    intro id hid
    rcases List.mem_append.1 hid with hid | hid
    · obtain ⟨t, ht, heq⟩ := h.known id hid
      exact ⟨t, List.mem_append_left _ ht, heq⟩
    · exact ⟨_, List.mem_append_right _ (List.mem_singleton_self _), (List.mem_singleton.1 hid).symm⟩
  apart := by
    intro id hcurrent
    obtain ⟨⟨t, ht, heq⟩, absent⟩ := h.apart id hcurrent
    refine ⟨⟨t, List.mem_append_left _ ht, heq⟩, fun hid => ?_⟩
    rcases List.mem_append.1 hid with hid | hid
    · exact absent hid
    · exact h.unused t ht (heq.trans (List.mem_singleton.1 hid))
  timers := h.timers
  distinct := h.distinct
  held := by
    intro b hb
    obtain ⟨t, ht, heq⟩ := h.held b hb
    exact ⟨t, List.mem_append_left _ ht, heq⟩
  later := h.later

/-- The task that stands first in the queue is taken. -/
theorem pop {id : Nat} {rest : List Nat} (first : a.queue = id :: rest) :
    Neat now blocks { a with queue := rest, current := some id } := by
  have nodup := h.queue
  rw [first, List.nodup_cons] at nodup
  exact { h with
    queue := nodup.2
    known := fun id hid => h.known id (first ▸ List.mem_cons_of_mem _ hid)
    apart := by
      intro id hid
      cases hid
      exact ⟨h.known id (first ▸ List.mem_cons_self ..), nodup.1⟩ }

/-- The running task rests, with other work and with timers that are set for it now. -/
theorem rest (ht : t ∈ a.tasks) (work : ω) (dues : List Nat) (late : ∀ due ∈ dues, now < due)
    (bare : dues ≠ [] → ∀ all, (t.id, all) ∉ blocks) :
    Neat now (blocks ++ block t.id dues)
      { dues.foldl (fun a due => a.sleep t.id due) (a.setWork t.id work) with current := none } := by
  rw [foldl_sleep]
  exact {
    ids := by
      show ((a.setWork t.id work).tasks.map (·.id)).Nodup
      rw [map_id_setWork]
      exact h.ids
    below := by
      intro x hx
      obtain ⟨y, hy, heq, -⟩ := mem_setWork hx
      rw [heq]
      exact h.below y hy
    queue := h.queue
    known := fun id hid => known_setWork (h.known id hid) t.id work
    apart := by
      intro id hid
      cases hid
    timers := by
      show a.timers ++ _ = _
      rw [h.timers, timersOf_block]
    distinct := by
      cases dues with
      | nil => simpa [block] using h.distinct
      | cons due others =>
        have new : t.id ∉ blocks.map (·.1) := by
          intro hmem
          obtain ⟨b, hb, heq⟩ := List.mem_map.1 hmem
          exact bare (List.cons_ne_nil _ _) b.2 (heq ▸ hb)
        show ((blocks ++ [(t.id, due :: others)]).map (·.1)).Nodup
        rw [List.map_append, List.map_singleton, ← List.concat_eq_append]
        exact h.distinct.concat new
    held := by
      intro b hb
      rcases List.mem_append.1 hb with hb | hb
      · exact known_setWork (h.held b hb) t.id work
      · obtain ⟨-, rfl⟩ := mem_block.1 hb
        exact known_setWork ⟨t, ht, rfl⟩ t.id work
    later := by
      intro b hb
      rcases List.mem_append.1 hb with hb | hb
      · exact h.later b hb
      · obtain ⟨-, rfl⟩ := mem_block.1 hb
        exact late }

theorem queue_finish {id : Nat} (runs : a.current = some id) :
    (Agenda.finish id { a with current := none }).queue = a.queue := by
  show a.queue.filter _ = a.queue
  rw [List.filter_eq_self]
  intro x hx
  simpa using fun heq : x = id => (h.apart id runs).2 (heq ▸ hx)

/-- The running task ends. -/
theorem finish {id : Nat} (runs : a.current = some id) :
    Neat now (blocks.filter fun b => b.1 != id) (Agenda.finish id { a with current := none }) where
  ids := h.ids.sublist (List.filter_sublist.map _)
  below := fun x hx => h.below x (mem_finish.1 hx).1
  queue := by
    rw [h.queue_finish runs]
    exact h.queue
  known := by
    intro x hx
    rw [h.queue_finish runs] at hx
    obtain ⟨y, hy, rfl⟩ := h.known x hx
    exact ⟨y, mem_finish.2 ⟨hy, fun heq => (h.apart id runs).2 (heq ▸ hx)⟩, rfl⟩
  apart := by
    intro id hid
    cases hid
  timers := by
    show a.timers.filter _ = _
    rw [h.timers]
    exact (timersOf_filter id blocks).symm
  distinct := h.distinct.sublist (List.filter_sublist.map _)
  held := by
    intro b hb
    obtain ⟨hb, hne⟩ := List.mem_filter.1 hb
    obtain ⟨x, hx, heq⟩ := h.held b hb
    exact ⟨x, mem_finish.2 ⟨hx, by rw [heq]; simpa using hne⟩, heq⟩
  later := fun b hb => h.later b (List.mem_filter.1 hb).1

/-- Timers fire, while no task can run. -/
theorem fire (idle : a.queue = []) (resting : a.current = none) (later : Nat) :
    Neat later (after later blocks) (a.fire later) := by
  rw [fire_timersOf h.timers h.distinct idle]
  exact {
    ids := h.ids
    below := h.below
    queue := nodup_woken h.distinct
    known := by
      intro id hid
      obtain ⟨dues, hb, -⟩ := mem_woken.1 hid
      exact h.held (id, dues) hb
    apart := by
      intro id hid
      rw [resting] at hid
      cases hid
    timers := rfl
    distinct := nodup_after h.distinct
    held := by
      intro b hb
      obtain ⟨-, all, hall, -⟩ := mem_after.1 hb
      exact h.held (b.1, all) hall
    later := by
      intro b hb due hdue
      obtain ⟨-, all, -, heq⟩ := mem_after.1 hb
      rw [heq] at hdue
      simpa using (List.mem_filter.1 hdue).2 }

end Laws

end Neat
end TopicRelay.Time.Agenda
