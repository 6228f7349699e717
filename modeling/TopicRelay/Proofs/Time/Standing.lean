/-
Tasks that stand. A task stands if it is there and will have its turn at an instant: a timer is set for
it, or, once the instant has come, it is in the queue. Nothing that is done to other tasks, and no instant
before its own, keeps it from that.
-/
import TopicRelay.Proofs.Time.Blocks

namespace TopicRelay.Time.Agenda

variable {ω : Type} {a : Agenda ω} {t t' : Task ω} {now due id : Nat}

/-- Tasks with numbers of their own. -/
structure Numbered (a : Agenda ω) : Prop where
  ids : (a.tasks.map (·.id)).Nodup
  below : ∀ t ∈ a.tasks, t.id < a.nextId

/-- A task is there, and is to run at an instant. -/
structure Stands (t : Task ω) (now due : Nat) (a : Agenda ω) : Prop where
  there : t ∈ a.tasks
  called : ({ due, task := t.id } : Timer) ∈ a.timers ∨ due ≤ now ∧ t.id ∈ a.queue

/-- Work is added, one task after the other. -/
def spawnAll (works : List ω) (a : Agenda ω) : Agenda ω :=
  works.foldl (fun a work => a.spawn work) a

/-! ## What operations leave as it is -/

@[simp]
theorem nextId_wake (a : Agenda ω) (id : Nat) : (a.wake id).nextId = a.nextId := by
  unfold wake
  split <;> rfl

@[simp]
theorem nextId_abort (a : Agenda ω) (id : Nat) : (a.abort id).nextId = a.nextId := by
  unfold abort
  dsimp only
  split
  · rfl
  · exact nextId_wake _ id

theorem tasks_abort (a : Agenda ω) (id : Nat) :
    (a.abort id).tasks = (a.mapTask id fun t => { t with aborted := true }).tasks := by
  unfold abort
  dsimp only
  split
  · rfl
  · exact tasks_wake _ id

@[simp]
theorem nextId_abortWhere (a : Agenda ω) (p : ω → Bool) : (a.abortWhere p).nextId = a.nextId := by
  unfold abortWhere
  generalize a.tasks.filter (fun t => p t.work) = ts
  induction ts generalizing a with
  | nil => rfl
  | cons t rest ih => exact (ih (a.abort t.id)).trans (nextId_abort a t.id)

theorem nextId_le_spawnAll (works : List ω) (a : Agenda ω) : a.nextId ≤ (a.spawnAll works).nextId := by
  induction works generalizing a with
  | nil => exact Nat.le_refl _
  | cons work rest ih => exact Nat.le_of_succ_le (ih (a.spawn work))

theorem mem_spawnAll (ht : t ∈ a.tasks) (works : List ω) : t ∈ (a.spawnAll works).tasks := by
  induction works generalizing a with
  | nil => exact ht
  | cons work rest ih => exact ih (List.mem_append_left _ ht)

theorem spawnAll_append (works more : List ω) (a : Agenda ω) :
    a.spawnAll (works ++ more) = (a.spawnAll works).spawnAll more :=
  List.foldl_append

theorem map_id_mapTask {f : Task ω → Task ω} (hf : ∀ t, (f t).id = t.id) (id : Nat) (a : Agenda ω) :
    (a.mapTask id f).tasks.map (·.id) = a.tasks.map (·.id) := by
  unfold mapTask
  rw [List.map_map]
  refine List.map_congr_left fun t _ => ?_
  simp only [Function.comp]
  split
  · exact hf t
  · rfl

theorem pop?_eq_some {b : Agenda ω} (popped : a.pop? = some (t, b)) :
    t ∈ a.tasks ∧ ∃ rest, a.queue = t.id :: rest ∧ b = { a with queue := rest, current := some t.id } := by
  unfold pop? at popped
  split at popped
  · cases popped
  · next id rest first =>
    split at popped
    · cases popped
    · next found =>
      cases popped
      have own : t.id = id := by simpa using List.find?_some found
      exact ⟨List.mem_of_find?_eq_some found, rest, own ▸ first, own ▸ rfl⟩

/-! ## Numbers -/

namespace Numbered

theorem empty : Numbered ({} : Agenda ω) :=
  ⟨List.nodup_nil, List.forall_mem_nil _⟩

theorem eq_of_id (h : a.Numbered) (ht : t ∈ a.tasks) (ht' : t' ∈ a.tasks) (same : t.id = t'.id) :
    t = t' :=
  List.inj_on_of_nodup_map h.ids ht ht' same

/-- What becomes of tasks makes no difference as long as they keep their numbers. -/
theorem of_ids {a' : Agenda ω} (h : a.Numbered)
    (ids : a'.tasks.map (·.id) = a.tasks.map (·.id)) (nextId : a'.nextId = a.nextId) : a'.Numbered where
  ids := ids ▸ h.ids
  below := by
    intro t ht
    have hid : t.id ∈ a.tasks.map (·.id) := ids ▸ List.mem_map_of_mem ht
    obtain ⟨x, hx, heq⟩ := List.mem_map.1 hid
    rw [nextId, ← heq]
    exact h.below x hx

theorem mapTask (h : a.Numbered) {f : Task ω → Task ω} (hf : ∀ t, (f t).id = t.id) (id : Nat) :
    (a.mapTask id f).Numbered :=
  h.of_ids (map_id_mapTask hf id a) rfl

theorem wake (h : a.Numbered) (id : Nat) : (a.wake id).Numbered :=
  h.of_ids (by rw [tasks_wake]) (nextId_wake a id)

theorem setWork (h : a.Numbered) (id : Nat) (work : ω) : (a.setWork id work).Numbered :=
  h.of_ids (map_id_setWork id work a) rfl

theorem spawn (h : a.Numbered) (work : ω) : (a.spawn work).Numbered where
  ids := by
    show ((a.tasks ++ [({ id := a.nextId, work } : Task ω)]).map (·.id)).Nodup
    rw [List.map_append, List.map_singleton, ← List.concat_eq_append]
    refine h.ids.concat fun hmem => ?_
    obtain ⟨t, ht, heq⟩ := List.mem_map.1 hmem
    exact Nat.lt_irrefl _ (heq ▸ h.below t ht)
  below := by
    intro t ht
    rcases List.mem_append.1 ht with ht | ht
    · exact Nat.lt_succ_of_lt (h.below t ht)
    · obtain rfl := List.mem_singleton.1 ht
      exact Nat.lt_succ_self _

theorem spawnAll : ∀ (works : List ω) {a : Agenda ω}, a.Numbered → (a.spawnAll works).Numbered
  | [], _, h => h
  | work :: rest, _, h => spawnAll rest (h.spawn work)

theorem abort (h : a.Numbered) (id : Nat) : (a.abort id).Numbered := by
  refine h.of_ids ?_ (nextId_abort a id)
  rw [tasks_abort]
  exact map_id_mapTask (f := fun t => { t with aborted := true }) (fun _ => rfl) id a

theorem abortWhere (h : a.Numbered) (p : ω → Bool) : (a.abortWhere p).Numbered := by
  unfold Agenda.abortWhere
  generalize a.tasks.filter (fun t => p t.work) = ts
  induction ts generalizing a with
  | nil => exact h
  | cons t rest ih => exact ih (h.abort t.id)

theorem finish (h : a.Numbered) (id : Nat) : (a.finish id).Numbered where
  ids := h.ids.sublist (List.filter_sublist.map _)
  below := fun t ht => h.below t (List.mem_filter.1 ht).1

end Numbered

theorem tasks_foldl_abort : ∀ (ts : List (Task ω)) (a : Agenda ω),
    (ts.foldl (fun a t => a.abort t.id) a).tasks =
      a.tasks.map fun t => if t.id ∈ ts.map (·.id) then { t with aborted := true } else t
  | [], a => by simp
  | x :: rest, a => by
    rw [List.foldl_cons, tasks_foldl_abort rest, tasks_abort, mapTask, List.map_map]
    refine List.map_congr_left fun t _ => ?_
    by_cases own : t.id = x.id <;> by_cases later : t.id ∈ rest.map (·.id) <;> simp_all

/-- The tasks of some kind are aborted, and no others. -/
theorem tasks_abortWhere (numbered : a.Numbered) (p : ω → Bool) :
    (a.abortWhere p).tasks =
      a.tasks.map fun t => if p t.work then { t with aborted := true } else t := by
  rw [abortWhere, tasks_foldl_abort]
  refine List.map_congr_left fun t ht => ?_
  have chosen : t.id ∈ (a.tasks.filter fun t => p t.work).map (·.id) ↔ p t.work = true := by
    constructor
    · intro hid
      obtain ⟨x, hx, same⟩ := List.mem_map.1 hid
      obtain ⟨there, kind⟩ := List.mem_filter.1 hx
      exact numbered.eq_of_id there ht same ▸ kind
    · exact fun kind => List.mem_map_of_mem (List.mem_filter.2 ⟨ht, kind⟩)
  simp only [chosen]

/-! ## Standing -/

theorem mem_queue_wake {x : Nat} (hx : x ∈ a.queue) (id : Nat) : x ∈ (a.wake id).queue := by
  unfold wake
  split
  · exact hx
  · exact List.mem_append_left _ hx

theorem mem_queue_wake_self (a : Agenda ω) (id : Nat) : id ∈ (a.wake id).queue := by
  unfold wake
  split
  · next there => simpa using there
  · exact List.mem_append_right _ (List.mem_singleton_self id)

/-- Timers wake their tasks, and nobody is put to sleep by that. -/
theorem mem_queue_foldl_wake {x : Nat} : ∀ (timers : List Timer) {a : Agenda ω},
    x ∈ a.queue ∨ (∃ τ ∈ timers, τ.task = x) →
      x ∈ (timers.foldl (fun a τ => a.wake τ.task) a).queue
  | [], _, h => by
    rcases h with h | ⟨τ, hτ, -⟩
    · exact h
    · cases hτ
  | τ :: rest, a, h => by
    refine mem_queue_foldl_wake rest (a := a.wake τ.task) ?_
    rcases h with h | ⟨τ', hτ', rfl⟩
    · exact .inl (mem_queue_wake h τ.task)
    · rcases List.mem_cons.1 hτ' with rfl | hτ'
      · exact .inl (mem_queue_wake_self a _)
      · exact .inr ⟨τ', hτ', rfl⟩

theorem tasks_foldl_wake (timers : List Timer) (a : Agenda ω) :
    (timers.foldl (fun a τ => a.wake τ.task) a).tasks = a.tasks := by
  induction timers generalizing a with
  | nil => rfl
  | cons τ rest ih => exact (ih (a.wake τ.task)).trans (tasks_wake a τ.task)

theorem timers_foldl_wake (timers : List Timer) (a : Agenda ω) :
    (timers.foldl (fun a τ => a.wake τ.task) a).timers = a.timers := by
  induction timers generalizing a with
  | nil => rfl
  | cons τ rest ih => exact (ih (a.wake τ.task)).trans (timers_wake a τ.task)

theorem nextId_foldl_wake (timers : List Timer) (a : Agenda ω) :
    (timers.foldl (fun a τ => a.wake τ.task) a).nextId = a.nextId := by
  induction timers generalizing a with
  | nil => rfl
  | cons τ rest ih => exact (ih (a.wake τ.task)).trans (nextId_wake a τ.task)

@[simp]
theorem nextId_fire (a : Agenda ω) (now : Nat) : (a.fire now).nextId = a.nextId :=
  nextId_foldl_wake _ _

theorem Numbered.fire (h : a.Numbered) (now : Nat) : (a.fire now).Numbered :=
  h.of_ids (congrArg _ (tasks_foldl_wake _ _)) (nextId_fire a now)

namespace Stands

theorem wake (h : a.Stands t now due) (id : Nat) : (a.wake id).Stands t now due where
  there := by
    rw [tasks_wake]
    exact h.there
  called := by
    rw [timers_wake]
    exact h.called.imp_right fun ⟨reached, queued⟩ => ⟨reached, mem_queue_wake queued id⟩

theorem spawn (h : a.Stands t now due) (work : ω) : (a.spawn work).Stands t now due where
  there := List.mem_append_left _ h.there
  called := h.called.imp_right fun ⟨reached, queued⟩ => ⟨reached, List.mem_append_left _ queued⟩

theorem spawnAll : ∀ (works : List ω) {a : Agenda ω}, a.Stands t now due →
    (a.spawnAll works).Stands t now due
  | [], _, h => h
  | work :: rest, _, h => spawnAll rest (h.spawn work)

/-- A change of tasks that spares this one. -/
theorem mapTask (h : a.Stands t now due) {f : Task ω → Task ω} (spared : t.id = id → f t = t) :
    (a.mapTask id f).Stands t now due where
  there := by
    refine List.mem_map.2 ⟨t, h.there, ?_⟩
    split
    · next own => exact spared (by simpa using own)
    · rfl
  called := h.called

theorem abort (h : a.Stands t now due) (other : t.id ≠ id) : (a.abort id).Stands t now due := by
  have marked := h.mapTask (f := fun t => { t with aborted := true }) fun own => absurd own other
  unfold Agenda.abort
  dsimp only
  split
  · exact marked
  · exact marked.wake id

/-- Work of another kind is aborted. -/
theorem abortWhere (h : a.Stands t now due) (numbered : a.Numbered) {p : ω → Bool}
    (other : p t.work = false) : (a.abortWhere p).Stands t now due := by
  have others : ∀ x ∈ a.tasks.filter fun x => p x.work, t.id ≠ x.id := by
    intro x hx same
    obtain ⟨hx, kind⟩ := List.mem_filter.1 hx
    obtain rfl := numbered.eq_of_id h.there hx same
    rw [other] at kind
    cases kind
  unfold Agenda.abortWhere
  clear numbered
  generalize a.tasks.filter (fun x => p x.work) = xs at others
  induction xs generalizing a with
  | nil => exact h
  | cons x rest ih =>
    exact ih (h.abort (others x List.mem_cons_self)) fun y hy => others y (List.mem_cons_of_mem _ hy)

theorem sleep (h : a.Stands t now due) (id later : Nat) : (a.sleep id later).Stands t now due where
  there := h.there
  called := h.called.imp_left fun timer => List.mem_append_left _ timer

theorem sleepAll : ∀ (id : Nat) (dues : List Nat) {a : Agenda ω}, a.Stands t now due →
    (dues.foldl (fun a due => a.sleep id due) a).Stands t now due
  | _, [], _, h => h
  | id, later :: rest, _, h => sleepAll id rest (h.sleep id later)

theorem finish (h : a.Stands t now due) (other : t.id ≠ id) : (a.finish id).Stands t now due where
  there := List.mem_filter.2 ⟨h.there, by simpa using other⟩
  called := by
    refine h.called.imp (fun timer => ?_) fun ⟨reached, queued⟩ => ⟨reached, ?_⟩
    · exact List.mem_filter.2 ⟨timer, by simpa using other⟩
    · exact List.mem_filter.2 ⟨queued, by simpa using other⟩

/-- Another task has its turn, or this one does before its instant. -/
theorem pop (h : a.Stands t now due) {rest : List Nat} (first : a.queue = id :: rest)
    (early : t.id = id → now < due) (current : Option Nat) :
    Stands t now due { a with queue := rest, current } where
  there := h.there
  called := by
    refine h.called.imp_right fun ⟨reached, queued⟩ => ⟨reached, ?_⟩
    rw [first] at queued
    rcases List.mem_cons.1 queued with own | queued
    · exact absurd (early own) (Nat.not_lt.2 reached)
    · exact queued

/-- A number that stands in the queue for no task is passed over. -/
theorem skip (h : a.Stands t now due) (nobody : a.pop? = none) :
    Stands t now due { a with queue := a.queue.tail } where
  there := h.there
  called := by
    refine h.called.imp_right fun ⟨reached, queued⟩ => ⟨reached, ?_⟩
    unfold pop? at nobody
    split at nobody
    · next empty =>
      rw [empty] at queued
      cases queued
    · next id rest first =>
      show t.id ∈ a.queue.tail
      rw [first] at queued ⊢
      rcases List.mem_cons.1 queued with rfl | queued
      · split at nobody
        · next absent => exact absurd (beq_self_eq_true t.id) (List.find?_eq_none.1 absent t h.there)
        · cases nobody
      · exact queued

/-- Time goes on, up to the instant of the task. -/
theorem fire (h : a.Stands t now due) {later : Nat} (onward : now ≤ later) (early : later ≤ due) :
    (a.fire later).Stands t later due where
  there := by
    unfold Agenda.fire
    rw [tasks_foldl_wake]
    exact h.there
  called := by
    unfold Agenda.fire
    rw [timers_foldl_wake]
    rcases h.called with timer | ⟨reached, queued⟩
    · rcases Nat.lt_or_eq_of_le early with lt | rfl
      · exact .inl (List.mem_filter.2 ⟨timer, by simpa using lt⟩)
      · have fires : { due := later, task := t.id } ∈ a.timers.filter fun τ => decide (τ.due ≤ later) :=
          List.mem_filter.2 ⟨timer, decide_eq_true (Nat.le_refl later)⟩
        exact .inr ⟨Nat.le_refl _, mem_queue_foldl_wake _ (.inr ⟨_, fires, rfl⟩)⟩
    · exact .inr ⟨Nat.le_trans reached onward, mem_queue_foldl_wake _ (.inl queued)⟩

end Stands

/-- A task that has been added can run at once. -/
theorem stands_spawnAll {works : List ω} {work : ω} (hw : work ∈ works) (now : Nat) :
    ∀ a : Agenda ω, ∃ t : Task ω, t.work = work ∧ t.aborted = false ∧ a.nextId ≤ t.id ∧
      (a.spawnAll works).Stands t now now := by
  induction works with
  | nil => cases hw
  | cons first rest ih =>
    intro a
    rcases List.mem_cons.1 hw with rfl | hw
    · refine ⟨{ id := a.nextId, work }, rfl, rfl, Nat.le_refl _, Stands.spawnAll rest ⟨?_, ?_⟩⟩
      · exact List.mem_append_right _ (List.mem_singleton_self _)
      · exact .inr ⟨Nat.le_refl _, List.mem_append_right _ (List.mem_singleton_self _)⟩
    · obtain ⟨t, kind, active, new, stands⟩ := ih hw (a.spawn first)
      exact ⟨t, kind, active, Nat.le_of_succ_le new, stands⟩

/-- A task that waits stands for the instant of its timer. -/
theorem stands_rest (ht : t ∈ a.tasks) (now due : Nat) :
    Stands t now due { ((a.setWork t.id t.work).sleep t.id due) with current := none } where
  there := mem_setWork_own ht t.work
  called := .inl (List.mem_append_right _ (List.mem_singleton_self _))

end TopicRelay.Time.Agenda
