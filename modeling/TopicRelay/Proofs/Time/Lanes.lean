/-
Lanes of an agenda. One may be interested in some of the jobs that tasks are waiting to do, and not in
what else makes the tasks run: a lane has the jobs that are ready, in the order in which their tasks
stand in the queue, and those that wait for their instants, in the order in which these will wake
their tasks. The lane is kept by everything that happens to an agenda, and only the turns of its own
jobs change it: other timers of the same tasks, and other tasks, make no difference to it.

What makes this true is that the timers of one task stand together, since they are set together.
-/
import TopicRelay.Proofs.Time.Blocks

namespace TopicRelay.Time.Agenda

variable {ω κ : Type}

/-! ## Jobs -/

/-- The job of a task that wants it to be done from some instant on, if that has come. -/
def readyJob (now : Nat) : Option (Nat × κ) → Option κ
  | some (due, job) => if due ≤ now then some job else none
  | none => none

/-- The job of a task that waits for an instant that has not come. -/
def waitingJob (now : Nat) : Option (Nat × κ) → Option (Nat × κ)
  | some (due, job) => if now < due then some (due, job) else none
  | none => none

theorem waitingJob_of_late {now : Nat} {need : Option (Nat × κ)} (late : ∀ p ∈ need, now < p.1) :
    waitingJob now need = need := by
  cases need with
  | none => rfl
  | some p => exact if_pos (late p rfl)

theorem waitingJob_of_ready {now : Nat} {need : Option (Nat × κ)}
    (reached : readyJob now need ≠ none) : waitingJob now need = none := by
  cases need with
  | none => rfl
  | some p =>
    refine if_neg fun late => reached ?_
    exact if_neg (Nat.not_le.2 late)

theorem eq_none_of_idle {now : Nat} {need : Option (Nat × κ)} (idle : readyJob now need = none)
    (prompt : waitingJob now need = none) : need = none := by
  cases need with
  | none => rfl
  | some p =>
    rcases Nat.lt_or_ge now p.1 with late | reached
    · rw [waitingJob, if_pos late] at prompt
      cases prompt
    · rw [readyJob, if_pos reached] at idle
      cases idle

/-- What the task of a number wants. -/
def wants (need : ω → Option (Nat × κ)) (a : Agenda ω) (id : Nat) : Option (Nat × κ) :=
  (a.task? id).bind fun t => need t.work

variable {need need' : ω → Option (Nat × κ)} {lone : ω → Bool} {now : Nat}
  {blocks : List (Nat × List Nat)} {a b : Agenda ω} {ready : List κ} {waiting : List (Nat × κ)}

theorem wants_of_mem (ids : (a.tasks.map (·.id)).Nodup) {t : Task ω} (ht : t ∈ a.tasks) :
    wants need a t.id = need t.work := by
  rw [wants, task?_of_mem ids ht, Option.bind_some]

/-- A lane of an agenda. What tasks want is told by `need`, with the instant from which on they want
it; tasks whose work is `lone` set at most one timer, and stand nowhere else while it is set. -/
structure Lane (need : ω → Option (Nat × κ)) (lone : ω → Bool) (now : Nat)
    (blocks : List (Nat × List Nat)) (a : Agenda ω) (ready : List κ)
    (waiting : List (Nat × κ)) : Prop extends Neat now blocks a where
  single : ∀ t ∈ a.tasks, lone t.work = true → ∀ dues, (t.id, dues) ∈ blocks →
    dues.length ≤ 1 ∧ t.id ∉ a.queue ∧ a.current ≠ some t.id
  ready : ready = a.queue.filterMap fun id => readyJob now (wants need a id)
  waiting : waiting = blocks.filterMap fun b => waitingJob now (wants need a b.1)
  set : ∀ t ∈ a.tasks, a.current = some t.id → lone t.work = false → ∀ due job,
    need t.work = some (due, job) → now < due → ∃ dues, (t.id, dues) ∈ blocks ∧ due ∈ dues
  rests : ∀ t ∈ a.tasks, a.current ≠ some t.id → ∀ due job, need t.work = some (due, job) →
    (now < due → ∃ dues, (t.id, dues) ∈ blocks ∧ due ∈ dues) ∧ (due ≤ now → t.id ∈ a.queue)

namespace Lane

/-- An empty agenda. -/
theorem empty (need : ω → Option (Nat × κ)) (lone : ω → Bool) (now : Nat) :
    Lane need lone now [] ({} : Agenda ω) [] [] :=
  { Neat.empty now with
    single := by simp
    ready := rfl
    waiting := rfl
    set := by simp
    rests := by simp }

/-! ### New tasks -/

theorem wants_spawn_old (work : ω) {id : Nat} (old : id ≠ a.nextId) :
    wants need (a.spawn work) id = wants need a id := by
  unfold wants task? Agenda.spawn
  rw [List.find?_append]
  cases a.tasks.find? (fun t => t.id == id) with
  | some t => rfl
  | none => simp [Ne.symm old]

theorem wants_spawn_new (neat : Neat now blocks a) (work : ω) :
    wants need (a.spawn work) a.nextId = need work :=
  wants_of_mem (neat.spawn work).ids (List.mem_append_right _ (List.mem_singleton_self _))

/-- A new task is added. -/
theorem spawn (h : Lane need lone now blocks a ready waiting) (work : ω)
    (prompt : ∀ due job, need work = some (due, job) → due ≤ now) :
    Lane need lone now blocks (a.spawn work) (ready ++ (readyJob now (need work)).toList)
      waiting := by
  have cases (t : Task ω) (ht : t ∈ (a.spawn work).tasks) :
      t ∈ a.tasks ∨ t = { id := a.nextId, work } := by
    simpa [Agenda.spawn] using ht
  refine { h.toNeat.spawn work with
    single := ?single, ready := ?ready, waiting := ?waiting, set := ?set, rests := ?rests }
  case single =>
    intro t ht hlone dues hb
    rcases cases t ht with ht | rfl
    · obtain ⟨short, absent, idle⟩ := h.single t ht hlone dues hb
      refine ⟨short, fun hid => ?_, idle⟩
      rcases List.mem_append.1 hid with hid | hid
      · exact absent hid
      · exact h.unused t ht (List.mem_singleton.1 hid)
    · exact absurd rfl (h.nextId_blocks _ hb)
  case ready =>
    show _ = (a.queue ++ [a.nextId]).filterMap _
    rw [List.filterMap_append, h.ready]
    congr 1
    · refine List.filterMap_congr fun id hid => ?_
      rw [wants_spawn_old work fun heq => h.nextId_queue (heq ▸ hid)]
    · simp only [List.filterMap_cons, List.filterMap_nil, wants_spawn_new h.toNeat]
      cases readyJob now (need work) <;> rfl
  case waiting =>
    rw [h.waiting]
    exact List.filterMap_congr fun b hb => by rw [wants_spawn_old work (h.nextId_blocks b hb)]
  case set =>
    intro t ht hcurrent hlone due job hneed hdue
    rcases cases t ht with ht | rfl
    · exact h.set t ht hcurrent hlone due job hneed hdue
    · obtain ⟨⟨t, ht, heq⟩, -⟩ := h.apart _ hcurrent
      exact absurd heq (h.unused t ht)
  case rests =>
    intro t ht hcurrent due job hneed
    rcases cases t ht with ht | rfl
    · obtain ⟨hset, hready⟩ := h.rests t ht hcurrent due job hneed
      exact ⟨hset, fun hdue => List.mem_append_left _ (hready hdue)⟩
    · have hdue := prompt due job hneed
      exact ⟨fun hlate => absurd hdue (Nat.not_le.2 hlate),
        fun _ => List.mem_append_right _ (List.mem_singleton_self _)⟩

/-! ### Turns -/

/-- Nothing waits for a lone task that stands in the queue. -/
theorem prompt_of_lone (h : Lane need lone now blocks a ready waiting) (idle : a.current = none)
    {t : Task ω} (ht : t ∈ a.tasks) (stands : t.id ∈ a.queue) (alone : lone t.work = true) :
    waitingJob now (need t.work) = none := by
  cases hneed : need t.work with
  | none => rfl
  | some p =>
    refine if_neg fun late => ?_
    obtain ⟨dues, hb, -⟩ := (h.rests t ht (by simp [idle]) p.1 p.2 hneed).1 late
    exact (h.single t ht alone dues hb).2.1 stands

/-- The task that stands first in the queue is taken. -/
theorem pop (h : Lane need lone now blocks a ready waiting) {id : Nat} {rest : List Nat}
    (first : a.queue = id :: rest) (idle : a.current = none) :
    ∃ t, a.pop? = some (t, { a with queue := rest, current := some id }) ∧ t ∈ a.tasks ∧ t.id = id ∧
      (lone t.work = true → waitingJob now (need t.work) = none) ∧
      ∃ later, ready = (readyJob now (need t.work)).toList ++ later ∧
        Lane need lone now blocks { a with queue := rest, current := some id } later waiting := by
  have stands : id ∈ a.queue := first ▸ List.mem_cons_self ..
  obtain ⟨t, ht, rfl⟩ := h.known id stands
  have there := task?_of_mem h.ids ht
  have split : ready = (readyJob now (need t.work)).toList ++
      rest.filterMap fun id => readyJob now (wants need a id) := by
    rw [h.ready, first, List.filterMap_cons, wants_of_mem h.ids ht]
    cases readyJob now (need t.work) <;> rfl
  refine ⟨t, by simp [pop?, first, there], ht, rfl, h.prompt_of_lone idle ht stands, _, split, ?_⟩
  refine { h.toNeat.pop first with
    single := ?single, ready := rfl, waiting := h.waiting, set := ?set, rests := ?rests }
  case single =>
    intro x hx hlone dues hb
    obtain ⟨short, apart, -⟩ := h.single x hx hlone dues hb
    refine ⟨short, fun hid => apart (first ▸ List.mem_cons_of_mem _ hid), fun hid => ?_⟩
    exact apart (Option.some.inj hid ▸ stands)
  case set =>
    intro x hx hid _ due job hneed hdue
    refine (h.rests x hx ?_ due job hneed).1 hdue
    rw [idle]
    simp
  case rests =>
    intro x hx hid due job hneed
    obtain ⟨hset, hready⟩ := h.rests x hx (by rw [idle]; simp) due job hneed
    refine ⟨hset, fun hdue => ?_⟩
    have hmem := hready hdue
    rw [first] at hmem
    rcases List.mem_cons.1 hmem with heq | hmem
    · exact absurd (congrArg some heq.symm) hid
    · exact hmem

/-- What tasks want may change for the running one, if it is lone. -/
theorem congr (h : Lane need lone now blocks a ready waiting)
    (same : ∀ t ∈ a.tasks, need' t.work = need t.work ∨ a.current = some t.id ∧ lone t.work = true) :
    Lane need' lone now blocks a ready waiting := by
  have sameWants (id : Nat) (known : ∃ t ∈ a.tasks, t.id = id)
      (other : ∀ t ∈ a.tasks, t.id = id → ¬(a.current = some t.id ∧ lone t.work = true)) :
      wants need' a id = wants need a id := by
    obtain ⟨t, ht, rfl⟩ := known
    rw [wants_of_mem h.ids ht, wants_of_mem h.ids ht]
    exact (same t ht).resolve_right (other t ht rfl)
  refine { h.toNeat with single := h.single, ready := ?ready, waiting := ?waiting, set := ?set, rests := ?rests }
  case ready =>
    rw [h.ready]
    refine List.filterMap_congr fun id hid => ?_
    rw [sameWants id (h.known id hid)]
    rintro t - rfl ⟨hcurrent, -⟩
    exact (h.apart t.id hcurrent).2 hid
  case waiting =>
    rw [h.waiting]
    refine List.filterMap_congr fun b hb => ?_
    rw [sameWants b.1 (h.held b hb)]
    rintro t ht heq ⟨hcurrent, hlone⟩
    exact (h.single t ht hlone b.2 (by rw [heq]; exact hb)).2.2 hcurrent
  case set =>
    intro t ht hcurrent hlone due job hneed
    rcases same t ht with heq | ⟨-, hlone'⟩
    · exact h.set t ht hcurrent hlone due job (heq ▸ hneed)
    · rw [hlone'] at hlone
      cases hlone
  case rests =>
    intro t ht hcurrent due job hneed
    rcases same t ht with heq | ⟨hcurrent', -⟩
    · exact h.rests t ht hcurrent due job (heq ▸ hneed)
    · exact absurd hcurrent' hcurrent

section Rest

variable {t : Task ω} (neat : Neat now blocks a) (ht : t ∈ a.tasks) (work : ω)
include neat

theorem wants_setWork_other {id : Nat} (known : ∃ x ∈ a.tasks, x.id = id) (hne : id ≠ t.id) :
    wants need (a.setWork t.id work) id = wants need a id := by
  obtain ⟨x, hx, rfl⟩ := known
  have ids := (map_id_setWork t.id work a).symm ▸ neat.ids
  rw [wants_of_mem ids (mem_setWork_other hx hne work), wants_of_mem neat.ids hx]

include ht in
theorem wants_setWork_own : wants need (a.setWork t.id work) t.id = need work :=
  wants_of_mem ((map_id_setWork t.id work a).symm ▸ neat.ids) (mem_setWork_own ht work)

end Rest

/-- The running task rests, with other work, and with timers that are set for it now. -/
theorem rest (h : Lane need lone now blocks a ready waiting) {t : Task ω} (ht : t ∈ a.tasks)
    (runs : a.current = some t.id) (work : ω) (dues : List Nat) (late : ∀ due ∈ dues, now < due)
    (short : lone work = true → dues.length ≤ 1)
    (bare : dues ≠ [] ∨ lone work = true → ∀ all, (t.id, all) ∉ blocks)
    (kept : (∃ all, (t.id, all) ∈ blocks) → waitingJob now (need work) = waitingJob now (need t.work))
    (set : ∀ due job, need work = some (due, job) →
      now < due ∧ (due ∈ dues ∨ ∃ all, (t.id, all) ∈ blocks ∧ due ∈ all)) :
    Lane need lone now (blocks ++ block t.id dues)
      { dues.foldl (fun a due => a.sleep t.id due) (a.setWork t.id work) with current := none } ready
      (waiting ++ if dues.isEmpty then [] else (waitingJob now (need work)).toList) := by
  have neat := h.toNeat.rest ht work dues late fun some => bare (.inl some)
  have absent : t.id ∉ a.queue := (h.apart t.id runs).2
  rw [foldl_sleep] at neat ⊢
  refine { neat with
    single := ?single, ready := ?ready, waiting := ?waiting, set := ?set, rests := ?rests }
  case single =>
    intro x hx hlone all hb
    obtain ⟨y, hy, heq, ⟨hne, rfl⟩ | ⟨hid, hwork⟩⟩ := mem_setWork hx
    · rcases List.mem_append.1 hb with hb | hb
      · obtain ⟨brief, hqueue, -⟩ := h.single x hy hlone all hb
        exact ⟨brief, hqueue, by simp⟩
      · exact absurd (Prod.mk.inj (mem_block.1 hb).2).1 hne
    · rw [hwork] at hlone
      rw [heq, hid] at hb ⊢
      rcases List.mem_append.1 hb with hb | hb
      · exact absurd hb (bare (.inr hlone) all)
      · obtain rfl := (Prod.mk.inj (mem_block.1 hb).2).2
        exact ⟨short hlone, absent, by simp⟩
  case ready =>
    rw [h.ready]
    refine List.filterMap_congr fun id hid => ?_
    show readyJob now (wants need a id) = readyJob now (wants need (a.setWork t.id work) id)
    rw [wants_setWork_other h.toNeat work (h.known id hid) fun heq => absent (heq ▸ hid)]
  case waiting =>
    -- the blocks that there are keep their order, and a new one stands last
    show _ = List.filterMap
      (fun b : Nat × List Nat => waitingJob now (wants need (a.setWork t.id work) b.1)) _
    rw [List.filterMap_append, h.waiting]
    congr 1
    · refine List.filterMap_congr fun b hb => ?_
      by_cases heq : b.1 = t.id
      · rw [heq, wants_setWork_own h.toNeat ht, wants_of_mem h.ids ht]
        exact (kept ⟨b.2, heq ▸ hb⟩).symm
      · rw [wants_setWork_other h.toNeat work (h.held b hb) heq]
    · cases dues with
      | nil => rfl
      | cons due others =>
        simp only [block, List.isEmpty_cons, Bool.false_eq_true, if_false, List.filterMap_cons,
          List.filterMap_nil, wants_setWork_own h.toNeat ht]
        cases waitingJob now (need work) <;> rfl
  case set =>
    intro x hx hid
    cases hid
  case rests =>
    intro x hx _ due job hneed
    obtain ⟨y, hy, heq, ⟨hne, rfl⟩ | ⟨hid, hwork⟩⟩ := mem_setWork hx
    · have foreign : a.current ≠ some x.id := by
        rw [runs]
        exact fun hid => hne (Option.some.inj hid).symm
      obtain ⟨hset, hready⟩ := h.rests x hy foreign due job hneed
      refine ⟨fun hdue => ?_, hready⟩
      obtain ⟨all, hb, hmem⟩ := hset hdue
      exact ⟨all, List.mem_append_left _ hb, hmem⟩
    · rw [hwork] at hneed
      obtain ⟨hdue, hmem⟩ := set due job hneed
      refine ⟨fun _ => ?_, fun hle => absurd hdue (Nat.not_lt.2 hle)⟩
      rw [heq, hid]
      rcases hmem with hmem | ⟨all, hb, hmem⟩
      · exact ⟨dues, List.mem_append_right _ (mem_block.2 ⟨List.ne_nil_of_mem hmem, rfl⟩), hmem⟩
      · exact ⟨all, List.mem_append_left _ hb, hmem⟩

/-- The running task was lone: it rests with timers for all that it wants. -/
theorem rest_lone (h : Lane need lone now blocks a ready waiting) {t : Task ω} (ht : t ∈ a.tasks)
    (runs : a.current = some t.id) (alone : lone t.work = true) (work : ω) (dues : List Nat)
    (late : ∀ due ∈ dues, now < due) (short : lone work = true → dues.length ≤ 1)
    (set : ∀ due job, need work = some (due, job) → due ∈ dues) :
    ∃ blocks', Lane need lone now blocks'
      { dues.foldl (fun a due => a.sleep t.id due) (a.setWork t.id work) with current := none } ready
      (waiting ++ (waitingJob now (need work)).toList) := by
  have bare : ∀ all, (t.id, all) ∉ blocks :=
    fun all hb => (h.single t ht alone all hb).2.2 runs
  have rested := h.rest ht runs work dues late short (fun _ => bare)
    (fun ⟨all, hb⟩ => absurd hb (bare all))
    (fun due job hneed => ⟨late due (set due job hneed), .inl (set due job hneed)⟩)
  refine ⟨blocks ++ block t.id dues, ?_⟩
  cases dues with
  | cons due others => exact rested
  | nil =>
    have nothing : need work = none := by
      cases hneed : need work with
      | none => rfl
      | some p => cases set p.1 p.2 hneed
    rw [nothing]
    exact rested

/-- The running task was not lone: it rests with the timers that it has, and wants what it wanted, or
nothing more once that is done. -/
theorem rest_again (h : Lane need lone now blocks a ready waiting) {t : Task ω} (ht : t ∈ a.tasks)
    (runs : a.current = some t.id) (work : ω) (alone : lone t.work = false)
    (still : lone work = false)
    (wants : need work = none ∧ waitingJob now (need t.work) = none ∨
      need work = need t.work ∧ readyJob now (need t.work) = none) :
    ∃ blocks', Lane need lone now blocks' { a.setWork t.id work with current := none } ready
      waiting := by
  have rested := h.rest ht runs work [] (List.forall_mem_nil _) (fun _ => Nat.zero_le _)
    (fun hor => by simp [still] at hor) (fun _ => ?_) (fun due job hneed => ?_)
  · exact ⟨_, by simpa using rested⟩
  · rcases wants with ⟨hnone, hdone⟩ | ⟨hsame, -⟩
    · rw [hnone, hdone]
      rfl
    · rw [hsame]
  · rcases wants with ⟨hnone, -⟩ | ⟨hsame, hlate⟩
    · rw [hnone] at hneed
      cases hneed
    · rw [hsame] at hneed
      have hdue : now < due := by
        by_contra hle
        simp [hneed, readyJob, Nat.not_lt.1 hle] at hlate
      exact ⟨hdue, .inr (h.set t ht runs alone due job hneed hdue)⟩

/-- The running task ends. -/
theorem finish (h : Lane need lone now blocks a ready waiting) {t : Task ω} (ht : t ∈ a.tasks)
    (runs : a.current = some t.id) (done : waitingJob now (need t.work) = none) :
    Lane need lone now (blocks.filter fun b => b.1 != t.id)
      ({ a with current := none }.finish t.id) ready waiting := by
  have neat := h.toNeat.finish runs
  have queue := h.toNeat.queue_finish runs
  have absent : t.id ∉ a.queue := (h.apart t.id runs).2
  have other (id : Nat) (known : ∃ x ∈ a.tasks, x.id = id) (hne : id ≠ t.id) :
      wants need (Agenda.finish t.id { a with current := none }) id = wants need a id := by
    obtain ⟨x, hx, rfl⟩ := known
    rw [wants_of_mem neat.ids (mem_finish.2 ⟨hx, hne⟩), wants_of_mem h.ids hx]
  refine { neat with
    single := ?single, ready := ?ready, waiting := ?waiting, set := ?set, rests := ?rests }
  case single =>
    intro x hx hlone dues hb
    obtain ⟨brief, hqueue, -⟩ := h.single x (mem_finish.1 hx).1 hlone dues (List.mem_filter.1 hb).1
    exact ⟨brief, by rw [queue]; exact hqueue, by simp [Agenda.finish]⟩
  case ready =>
    rw [queue, h.ready]
    refine List.filterMap_congr fun id hid => ?_
    rw [other id (h.known id hid) fun heq => absent (heq ▸ hid)]
  case waiting =>
    rw [h.waiting, List.filterMap_filter]
    refine List.filterMap_congr fun b hb => ?_
    by_cases heq : b.1 = t.id
    · rw [heq, wants_of_mem h.ids ht, done]
      simp
    · rw [other b.1 (h.held b hb) heq]
      simp [heq]
  case set =>
    intro x hx hid
    cases hid
  case rests =>
    intro x hx _ due job hneed
    obtain ⟨hx, hne⟩ := mem_finish.1 hx
    have foreign : a.current ≠ some x.id := by
      rw [runs]
      exact fun hid => hne (Option.some.inj hid).symm
    obtain ⟨hset, hready⟩ := h.rests x hx foreign due job hneed
    refine ⟨fun hdue => ?_, fun hdue => by rw [queue]; exact hready hdue⟩
    obtain ⟨all, hb, hmem⟩ := hset hdue
    exact ⟨all, List.mem_filter.2 ⟨hb, by simpa using hne⟩, hmem⟩

/-! ### Timers -/

/-- While no task can run, each job that waits has its timer. -/
theorem timer_of_waiting (h : Lane need lone now blocks a ready waiting)
    (resting : a.current = none) {p : Nat × κ} (hp : p ∈ waiting) : ∃ τ ∈ a.timers, τ.due = p.1 := by
  rw [h.waiting] at hp
  obtain ⟨b, hb, hwaits⟩ := List.mem_filterMap.1 hp
  obtain ⟨t, ht, heq⟩ := h.held b hb
  rw [← heq, wants_of_mem h.ids ht] at hwaits
  cases hneed : need t.work with
  | none =>
    rw [hneed] at hwaits
    cases hwaits
  | some q =>
    obtain ⟨due, job⟩ := q
    rw [hneed, waitingJob] at hwaits
    split at hwaits
    · next late =>
      cases hwaits
      obtain ⟨dues, hdues, hmem⟩ := (h.rests t ht (by simp [resting]) due job hneed).1 late
      rw [h.timers]
      exact ⟨{ due, task := t.id }, mem_timersOf.2 ⟨dues, hdues, hmem⟩, rfl⟩
    · cases hwaits

section Fire

variable (h : Lane need lone now blocks a ready waiting) (idle : a.queue = [])
  (resting : a.current = none)
include h

/-- A lone task that an instant wakes has no timer left. -/
theorem woken_lone {t : Task ω} (ht : t ∈ a.tasks) (alone : lone t.work = true) {later : Nat}
    (woken : t.id ∈ woken later blocks) {dues : List Nat} : (t.id, dues) ∉ after later blocks := by
  intro hb
  obtain ⟨hne, all, hall, rfl⟩ := mem_after.1 hb
  obtain ⟨others, hothers, due, hmem, hle⟩ := mem_woken.1 woken
  obtain rfl := h.block_unique hothers hall
  -- its one timer is either due or left
  obtain ⟨left, hleft⟩ := List.exists_mem_of_ne_nil _ hne
  obtain ⟨hleft, hlate⟩ := List.mem_filter.1 hleft
  have one : left = due := by
    match others, (h.single t ht alone others hall).1 with
    | [x], _ => rw [List.mem_singleton.1 hleft, List.mem_singleton.1 hmem]
  have : later < left := by simpa using hlate
  omega

include idle resting

/-- What a task wants has its timer, as long as no task can run. -/
theorem timed {t : Task ω} (ht : t ∈ a.tasks) {due : Nat} {job : κ}
    (hneed : need t.work = some (due, job)) :
    now < due ∧ ∃ all, (t.id, all) ∈ blocks ∧ due ∈ all := by
  obtain ⟨hset, hready⟩ := h.rests t ht (by simp [resting]) due job hneed
  have hdue : now < due := by
    by_contra hle
    have := hready (Nat.not_lt.1 hle)
    rw [idle] at this
    cases this
  exact ⟨hdue, hset hdue⟩

theorem timed_block {b : Nat × List Nat} (hb : b ∈ blocks) {due : Nat} {job : κ}
    (hneed : wants need a b.1 = some (due, job)) : now < due ∧ due ∈ b.2 := by
  obtain ⟨t, ht, heq⟩ := h.held b hb
  rw [← heq, wants_of_mem h.ids ht] at hneed
  obtain ⟨hdue, all, hall, hmem⟩ := h.timed idle resting ht hneed
  rw [heq] at hall
  exact ⟨hdue, h.block_unique hall hb ▸ hmem⟩

/-- Timers fire. -/
theorem fire (later : Nat) :
    Lane need lone later (after later blocks) (a.fire later)
      (waiting.filterMap fun p => if p.1 ≤ later then some p.2 else none)
      (waiting.filter fun p => decide (later < p.1)) := by
  have neat := h.toNeat.fire idle resting later
  rw [fire_timersOf h.timers h.distinct idle] at neat ⊢
  refine { neat with
    single := ?single, ready := ?ready, waiting := ?waiting, set := ?set, rests := ?rests }
  case single =>
    intro t ht hlone dues hb
    obtain ⟨-, all, hall, rfl⟩ := mem_after.1 hb
    obtain ⟨brief, -, hcurrent⟩ := h.single t ht hlone all hall
    exact ⟨Nat.le_trans (List.length_filter_le ..) brief,
      fun woken => h.woken_lone ht hlone woken hb, hcurrent⟩
  case ready =>
    show _ = (woken later blocks).filterMap fun id => readyJob later (wants need a id)
    rw [h.waiting, List.filterMap_filterMap, woken, List.filterMap_map, List.filterMap_filter]
    refine List.filterMap_congr fun b hb => ?_
    cases hneed : wants need a b.1 with
    | none => simp [waitingJob, readyJob, hneed]
    | some p =>
      obtain ⟨due, job⟩ := p
      obtain ⟨hdue, hmem⟩ := h.timed_block idle resting hb hneed
      by_cases hle : due ≤ later
      · have some : (b.2.any fun due => decide (due ≤ later)) = true :=
          List.any_eq_true.2 ⟨due, hmem, by simpa using hle⟩
        simp [waitingJob, readyJob, hneed, hdue, hle, some]
      · simp [waitingJob, readyJob, hneed, hdue, hle]
  case waiting =>
    show _ = (after later blocks).filterMap fun b => waitingJob later (wants need a b.1)
    rw [h.waiting, List.filter_filterMap, after, List.filterMap_filter, List.filterMap_map]
    refine List.filterMap_congr fun b hb => ?_
    cases hneed : wants need a b.1 with
    | none => simp [waitingJob, hneed]
    | some p =>
      obtain ⟨due, job⟩ := p
      obtain ⟨hdue, hmem⟩ := h.timed_block idle resting hb hneed
      by_cases hlate : later < due
      · have left : (b.2.filter fun due => decide (later < due)) ≠ [] :=
          List.ne_nil_of_mem (List.mem_filter.2 ⟨hmem, by simpa using hlate⟩)
        simp [waitingJob, hneed, hdue, hlate, left]
      · simp [waitingJob, hneed, hdue, hlate, Nat.not_lt.1 hlate]
  case set =>
    intro t ht hid
    rw [resting] at hid
    cases hid
  case rests =>
    intro t ht _ due job hneed
    obtain ⟨hdue, all, hall, hmem⟩ := h.timed idle resting ht hneed
    constructor
    · intro hlate
      have left : due ∈ all.filter fun due => decide (later < due) := by simp [hmem, hlate]
      exact ⟨_, mem_after.2 ⟨List.ne_nil_of_mem left, all, hall, rfl⟩, left⟩
    · intro hle
      exact mem_woken.2 ⟨all, hall, due, hmem, hle⟩

end Fire

end Lane
end TopicRelay.Time.Agenda
