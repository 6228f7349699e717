/-
A world with one service in step with a solo of one of its endpoints. A turn of the world is a turn of
the solo if the task that has it has something to do for the endpoint, and otherwise leaves the solo as
it is; so the world settles as the solo does, and goes from timer to timer as the solo does.
-/
import TopicRelay.Proofs.Simulation.Cycles
import TopicRelay.Proofs.Simulation.Passes

namespace TopicRelay.Simulation

open TopicRelay.Broker TopicRelay.Config TopicRelay.Content TopicRelay.Control
open TopicRelay.Polling TopicRelay.Publication TopicRelay.Time

variable {s : ServiceConfig} {e : EndpointConfig} {own : Option Nat}
  {ses ses' : Polling.Session Handler} {w w₁ w₂ : World} {v v₁ v₂ : Solo} {t : Time.Task Work}

/-! ## Between turns -/

/-- The task that stands first in the queue is taken. -/
theorem Shows.pop (h : Shows s e own ses w v) {id : Nat} {rest : List Nat}
    (first : w.agenda.queue = id :: rest) (idle : w.agenda.current = none) :
    ∃ t later, w.agenda.pop? = some (t, { w.agenda with queue := rest, current := some t.id }) ∧
      t ∈ w.agenda.tasks ∧ t.id = id ∧
      v.ready = (Agenda.readyJob w.now (soloWants e own v.feed t.work)).toList ++ later ∧
      (soloLone t.work = true →
        Agenda.waitingJob w.now (soloWants e own v.feed t.work) = none) ∧
      Shows s e own ses { w with agenda := { w.agenda with queue := rest, current := some t.id } }
        { v with ready := later } := by
  obtain ⟨blocks, lane⟩ := h.lane
  obtain ⟨t, popped, ht, rfl, prompt, later, ready, lane'⟩ := lane.pop first idle
  refine ⟨t, later, popped, ht, rfl, ready, prompt, ?_⟩
  exact { h with
    clock := fun busy => h.clock (by rw [ready]; simp [busy])
    lane := ⟨blocks, lane'⟩ }

/-- The session of the service is held as long as the service runs. -/
theorem Shows.letGo (h : Shows s e own ses w v) : w.letGo = w := by
  have running : soloKey ∈ w.heldSessions := by
    unfold World.heldSessions
    rw [h.managed]
    simp [soloRunning]
  have kept : w.members.partition (fun m => w.heldSessions.contains m.key || World.hasRequest m) =
      (w.members, []) := by
    rw [h.members, List.partition_eq_filter_filter]
    simp [soloMember, running]
  unfold World.letGo
  simp only [kept, List.foldl_nil]

/-- The running task is put back, with what it does next. -/
theorem Shows.setWork (h : Shows s e own ses w v) (ht : t ∈ w.agenda.tasks)
    (runs : w.agenda.current = some t.id) {work : Work} {dues : List Nat} {need : Option (Nat × Job)}
    (turned : Turned s w.now ses t.work need work (soloWants e own v.feed work) dues)
    (wanted : soloLone t.work = false → soloWants e own v.feed t.work = need)
    (settled : soloLone t.work = false →
      Agenda.readyJob w.now need = none → soloWants e own v.feed work = need) :
    Shows s e own ses
      { w with agenda := { dues.foldl (fun a due => a.sleep t.id due) (w.agenda.setWork t.id work) with
        current := none } }
      { v with waiting := v.waiting ++ if soloLone t.work then
        (Agenda.waitingJob w.now (soloWants e own v.feed work)).toList else [] } := by
  obtain ⟨blocks, lane⟩ := h.lane
  have split : ∀ x ∈ (w.agenda.setWork t.id work).tasks,
      x = { t with work } ∨ x ∈ w.agenda.tasks ∧ x.id ≠ t.id := by
    intro x hx
    obtain ⟨y, hy, rfl⟩ := List.mem_map.1 hx
    by_cases heq : y.id = t.id
    · obtain rfl := List.inj_on_of_nodup_map lane.ids hy ht heq
      simp
    · simp [heq, hy]
  have tasks : (dues.foldl (fun a due => a.sleep t.id due) (w.agenda.setWork t.id work)).tasks =
      (w.agenda.setWork t.id work).tasks := by
    rw [Agenda.foldl_sleep]
  refine { h with clock := h.clock, unaborted := ?_, employed := ?_, epochs := ?_, lane := ?_ }
  · intro x hx
    rcases split x (tasks ▸ hx) with rfl | ⟨hx, -⟩
    · exact h.unaborted t ht
    · exact h.unaborted x hx
  · intro x hx
    rcases split x (tasks ▸ hx) with rfl | ⟨hx, -⟩
    · exact turned.employed
    · exact h.employed x hx
  · -- a cycle goes on as the cycle that it is
    intro x hx y hy key key' n hwork hwork'
    rcases split x (tasks ▸ hx) with rfl | ⟨hx, hne⟩ <;>
      rcases split y (tasks ▸ hy) with rfl | ⟨hy, hne'⟩
    · rfl
    · obtain rfl := h.epochs t ht y hy key key' n (turned.cycle key n (.inr hwork) ▸ hwork) hwork'
      exact absurd rfl hne'
    · obtain rfl := h.epochs t ht x hx key' key n (turned.cycle key' n (.inr hwork') ▸ hwork') hwork
      exact absurd rfl hne
    · exact h.epochs x hx y hy key key' n hwork hwork'
  · cases alone : soloLone t.work with
    | true => exact lane.rest_lone ht runs alone work dues turned.late turned.short (turned.set alone)
    | false =>
      obtain ⟨rfl, still⟩ := turned.bare alone
      rw [if_neg Bool.false_ne_true, List.append_nil]
      refine lane.rest_again ht runs work alone still ?_
      rw [wanted alone]
      cases reached : Agenda.readyJob w.now need with
      | none => exact .inr ⟨settled alone reached, rfl⟩
      | some job =>
        exact .inl ⟨turned.done alone (by simp [reached]),
          Agenda.waitingJob_of_ready (by simp [reached])⟩

/-- The running task ends. -/
theorem Shows.drop (h : Shows s e own ses w v) (ht : t ∈ w.agenda.tasks)
    (runs : w.agenda.current = some t.id)
    (done : Agenda.waitingJob w.now (soloWants e own v.feed t.work) = none) :
    Shows s e own ses { w with agenda := ({ w.agenda with current := none }).finish t.id } v := by
  obtain ⟨blocks, lane⟩ := h.lane
  have sub : ∀ x ∈ (({ w.agenda with current := none }).finish t.id).tasks, x ∈ w.agenda.tasks :=
    fun x hx => (List.mem_filter.1 hx).1
  exact { h with
    unaborted := fun x hx => h.unaborted x (sub x hx)
    employed := fun x hx => h.employed x (sub x hx)
    epochs := fun x hx y hy => h.epochs x (sub x hx) y (sub y hy)
    lane := ⟨_, lane.finish ht runs done⟩ }

/-! ## Turns -/

/-- A service with endpoints of distinct names, among them that of the solo, and with a period. -/
structure Hosts (s : ServiceConfig) (e : EndpointConfig) : Prop where
  names : (s.endpoints.map fun x => x.name).Nodup
  there : e ∈ s.endpoints
  period : 0 < s.pollPeriodMs.toNat

theorem Hosts.distinct (hosts : Hosts s e) : ∀ x ∈ s.endpoints, x.name = e.name → x = e :=
  fun _ hx same => List.inj_on_of_nodup_map hosts.names hx hosts.there same

/-- Whether a task is that of a cycle. -/
def World.HasCycle (w : World) (id : Nat) : Prop :=
  ∃ t ∈ w.agenda.tasks, t.id = id ∧ t.work matches .cycle _ _

/-- What turns of tasks that stand first in the queue come to for a solo, while other tasks stand behind
them. -/
structure Steps (s : ServiceConfig) (e : EndpointConfig) (turns rest : List Nat) (w : World)
    (v : Solo) (w' : World) : Prop where
  shows : ∃ own ses n, Shows s e own ses w' ((Solo.turn s e)^[n] v)
  now : w'.now = w.now
  current : w'.agenda.current = none
  cycles : ∀ id, w.HasCycle id → w'.HasCycle id
  queue : ∃ new, w'.agenda.queue = rest ++ new ∧ (∀ id ∈ new, w'.HasCycle id) ∧
    ((∀ id ∈ turns, w.HasCycle id) → new = [])

section Attends

variable {now : Nat} {need need' : Option (Nat × Job)}
  (attends : Solo.Attends s e now v need v₂ need')
include attends

/-- What is not done is still wanted. -/
theorem Solo.Attends.same (idle : Agenda.readyJob now need = none) : need' = need := by
  unfold Solo.Attends at attends
  rw [idle] at attends
  exact attends.2

/-- Once something is done, nothing is wanted at once. -/
theorem Solo.Attends.late (busy : Agenda.readyJob now need ≠ none) : ∀ p ∈ need', now < p.1 := by
  unfold Solo.Attends at attends
  split at attends
  · next idle => exact absurd idle busy
  · exact attends.2

end Attends

/-- What has been done for the endpoint in a turn is the first of its jobs, if that was ready, and
nothing otherwise. -/
theorem Solo.Attends.turn {now : Nat} {later : List Job} {need need' : Option (Nat × Job)}
    (attends : Solo.Attends s e now { v with ready := later } need v₂ need')
    (more : List (Nat × Job))
    (ready : v.ready = (Agenda.readyJob now need).toList ++ later)
    (idle : Agenda.readyJob now need = none → more = [])
    (busy : Agenda.readyJob now need ≠ none → more = need'.toList) :
    ∃ n, { v₂ with waiting := v₂.waiting ++ more } = (Solo.turn s e)^[n] v := by
  unfold Solo.Attends at attends
  cases hready : Agenda.readyJob now need with
  | none =>
    rw [hready] at attends ready
    obtain ⟨rfl, -⟩ := attends
    rw [idle hready, List.append_nil]
    obtain rfl : later = v.ready := by simpa using ready.symm
    exact ⟨0, rfl⟩
  | some job =>
    rw [hready] at attends ready
    rw [busy (by simp [hready])]
    refine ⟨1, attends.1.symm.trans ?_⟩
    show _ = v.turn s e
    unfold Solo.turn
    rw [ready]
    rfl

section Popped

variable {agenda : Time.Agenda Work}

theorem runNext_waits (popped : w.agenda.pop? = some (t, agenda)) (unaborted : t.aborted = false)
    {work : Work} {dues : List Nat}
    (turned : { w with agenda }.turn t.id t.work = (w₁, .waits work dues)) :
    w.runNext = (w₁.suspend t.id work dues).letGo := by
  unfold World.runNext
  rw [popped]
  simp only [unaborted, Bool.false_eq_true, if_false, turned]

theorem runNext_ended (popped : w.agenda.pop? = some (t, agenda)) (unaborted : t.aborted = false)
    (turned : { w with agenda }.turn t.id t.work = (w₁, .ended)) :
    w.runNext =
      ({ w₁ with agenda := { w₁.agenda with current := none } }.dropTask t.id t.work).letGo := by
  unfold World.runNext
  rw [popped]
  simp only [unaborted, Bool.false_eq_true, if_false, turned]

end Popped

/-- A task that waits after its turn is put back, unless it has been aborted. -/
theorem Shows.suspend_eq (h : Shows s e own ses w v) (ht : t ∈ w.agenda.tasks) (work : Work)
    (dues : List Nat) :
    w.suspend t.id work dues =
      { w with agenda := { dues.foldl (fun a due => a.sleep t.id due) (w.agenda.setWork t.id work) with
        current := none } } := by
  obtain ⟨blocks, lane⟩ := h.lane
  unfold World.suspend
  rw [Agenda.task?_of_mem lane.ids ht]
  simp [h.unaborted t ht]

theorem Shows.hasCycle (h : Shows s e own ses w v) (ht : t ∈ w.agenda.tasks) :
    w.HasCycle t.id ↔ ∃ key n, t.work = .cycle key n := by
  obtain ⟨blocks, lane⟩ := h.lane
  constructor
  · rintro ⟨x, hx, same, cycle⟩
    obtain rfl := List.inj_on_of_nodup_map lane.ids hx ht same
    cases hwork : x.work with
    | cycle key n => exact ⟨key, n, rfl⟩
    | metrics | pass | opening | notification =>
      rw [hwork] at cycle
      cases cycle
  · rintro ⟨key, n, hwork⟩
    exact ⟨t, ht, rfl, by rw [hwork]⟩

/-- The running task waits after its turn. -/
theorem Shows.suspended (h : Shows s e own ses w v) (ht : t ∈ w.agenda.tasks)
    (runs : w.agenda.current = some t.id) {work : Work} {dues : List Nat} {need : Option (Nat × Job)}
    (turned : Turned s w.now ses t.work need work (soloWants e own v.feed work) dues)
    (wanted : soloLone t.work = false → soloWants e own v.feed t.work = need)
    (settled : soloLone t.work = false →
      Agenda.readyJob w.now need = none → soloWants e own v.feed work = need) :
    Shows s e own ses (w.suspend t.id work dues).letGo
      { v with waiting := v.waiting ++ if soloLone t.work then
        (Agenda.waitingJob w.now (soloWants e own v.feed work)).toList else [] } ∧
    (w.suspend t.id work dues).letGo.agenda.queue = w.agenda.queue ∧
    (w.suspend t.id work dues).letGo.agenda.current = none ∧
    (w.suspend t.id work dues).letGo.now = w.now ∧
    ∀ id, w.HasCycle id → (w.suspend t.id work dues).letGo.HasCycle id := by
  have shows := h.setWork ht runs turned wanted settled
  rw [← h.suspend_eq ht] at shows
  rw [shows.letGo]
  refine ⟨shows, ?_⟩
  rw [h.suspend_eq ht]
  refine ⟨by rw [Agenda.foldl_sleep]; rfl, rfl, rfl, ?_⟩
  rintro id ⟨x, hx, rfl, cycle⟩
  show ∃ y ∈ (dues.foldl (fun a due => a.sleep t.id due) (w.agenda.setWork t.id work)).tasks, _
  rw [Agenda.foldl_sleep]
  by_cases heq : x.id = t.id
  · obtain ⟨key, n, hwork⟩ := (h.hasCycle ht).1 ⟨x, hx, heq, cycle⟩
    have same : work = .cycle key n := (turned.cycle key n (.inl hwork)).trans hwork
    exact ⟨_, Agenda.mem_setWork_own ht work, heq.symm, by rw [same]⟩
  · exact ⟨x, Agenda.mem_setWork_other hx heq work, rfl, cycle⟩

/-- A world while a task runs that was taken from the queue. -/
def World.running (t : Time.Task Work) (rest : List Nat) (w : World) : World :=
  { w with agenda := { w.agenda with queue := rest, current := some t.id } }

/-- A turn after which the task waits. -/
theorem Shows.steps_waits (h : Shows s e own ses w v) (ht : t ∈ w.agenda.tasks) {rest : List Nat}
    {later : List Job} {own' : Option Nat} {work : Work} {dues : List Nat}
    (popped : w.agenda.pop? = some (t, (w.running t rest).agenda))
    (ready : v.ready = (Agenda.readyJob w.now (soloWants e own v.feed t.work)).toList ++ later)
    (prompt : soloLone t.work = true →
      Agenda.waitingJob w.now (soloWants e own v.feed t.work) = none)
    (turn : (w.running t rest).turn t.id t.work = (w₂, .waits work dues))
    (h₂ : Shows s e own' ses' w₂ v₂) (onward : Onward (w.running t rest) w₂)
    (attends : Solo.Attends s e w.now { v with ready := later } (soloWants e own v.feed t.work) v₂
      (soloWants e own' v₂.feed work))
    (turned : Turned s w.now ses' t.work (soloWants e own v.feed t.work) work
      (soloWants e own' v₂.feed work) dues)
    (same : soloLone t.work = false →
      soloWants e own' v₂.feed t.work = soloWants e own v.feed t.work)
    (quiet : (∃ key n, t.work = .cycle key n) → w₂.agenda.queue = rest) :
    Steps s e [t.id] rest w v w.runNext := by
  have now : w₂.now = w.now := onward.now
  rw [runNext_waits popped (h.unaborted t ht) turn]
  obtain ⟨shows, queue, current, now', cycles⟩ :=
    h₂.suspended (onward.tasks t ht) onward.current (now.symm ▸ turned) same
      fun _ idle => attends.same (now ▸ idle)
  -- the timers that are set are for what is wanted now, unless the task had its timers before
  have idle : Agenda.readyJob w.now (soloWants e own v.feed t.work) = none →
      (if soloLone t.work then
        (Agenda.waitingJob w₂.now (soloWants e own' v₂.feed work)).toList else []) = [] := by
    intro idle
    split
    · next alone =>
      rw [attends.same idle, Agenda.eq_none_of_idle idle (prompt alone)]
      rfl
    · rfl
  have busy : Agenda.readyJob w.now (soloWants e own v.feed t.work) ≠ none →
      (if soloLone t.work then
        (Agenda.waitingJob w₂.now (soloWants e own' v₂.feed work)).toList else []) =
        (soloWants e own' v₂.feed work).toList := by
    intro busy
    split
    · rw [now, Agenda.waitingJob_of_late (attends.late busy)]
    · next crowded =>
      rw [turned.done (Bool.eq_false_iff.2 crowded) busy]
      rfl
  refine ⟨?_, now'.trans now, current, ?_, ?_⟩
  · obtain ⟨n, same⟩ := attends.turn (if soloLone t.work then
      (Agenda.waitingJob w₂.now (soloWants e own' v₂.feed work)).toList else []) ready idle busy
    exact ⟨own', ses', n, same ▸ shows⟩
  · rintro id ⟨x, hx, hid, cycle⟩
    exact cycles id ⟨x, onward.tasks x hx, hid, cycle⟩
  · obtain ⟨new, hqueue, hnew⟩ := onward.queue
    refine ⟨new, queue.trans hqueue, fun id hid => cycles id (hnew id hid), fun cycle => ?_⟩
    have cycle' := (h.hasCycle ht).1 (cycle t.id (List.mem_singleton_self _))
    have stays : rest ++ new = rest := hqueue.symm.trans (quiet cycle')
    simpa using stays

/-- A turn after which a pass has ended. -/
theorem Shows.steps_ended (h : Shows s e own ses w v) (ht : t ∈ w.agenda.tasks) {rest : List Nat}
    {later : List Job} {own' : Option Nat} {p : Pass} (hwork : t.work = .pass p)
    (popped : w.agenda.pop? = some (t, (w.running t rest).agenda))
    (ready : v.ready =
      (Agenda.readyJob w.now ((partOf e p.parts).bind Progress.wants)).toList ++ later)
    (turn : (w.running t rest).turn t.id t.work = (w₂, .ended))
    (h₂ : Shows s e own' ses' w₂ v₂) (onward : Onward (w.running t rest) w₂)
    (attends : Solo.Attends s e w.now { v with ready := later }
      ((partOf e p.parts).bind Progress.wants) v₂ none) :
    Steps s e [t.id] rest w v w.runNext := by
  have now : w₂.now = w.now := onward.now
  have done : Agenda.waitingJob w₂.now ((partOf e p.parts).bind Progress.wants) = none := by
    rw [now]
    by_cases idle : Agenda.readyJob w.now ((partOf e p.parts).bind Progress.wants) = none
    · rw [← attends.same idle]
      rfl
    · exact Agenda.waitingJob_of_ready idle
  have noCycle : ¬∃ key n, t.work = .cycle key n := by
    rintro ⟨key, n, heq⟩
    rw [hwork] at heq
    cases heq
  have shows := h₂.drop (onward.tasks t ht) onward.current (by rw [hwork]; exact done)
  have world : w.runNext =
      { w₂ with agenda := ({ w₂.agenda with current := none }).finish t.id } := by
    rw [runNext_ended popped (h.unaborted t ht) turn, hwork]
    exact shows.letGo
  obtain ⟨new, hqueue, hnew⟩ := onward.queue
  have stays : w.runNext.agenda.queue = w₂.agenda.queue := by
    obtain ⟨blocks, lane⟩ := h₂.lane
    have absent := (lane.apart t.id onward.current).2
    rw [world]
    refine List.filter_eq_self.2 fun id hid => ?_
    simpa using fun heq : id = t.id => absent (heq ▸ hid)
  have cycles : ∀ id, w₂.HasCycle id → w.runNext.HasCycle id := by
    rintro id ⟨x, hx, rfl, cycle⟩
    have hne : x.id ≠ t.id := fun heq =>
      noCycle ((h₂.hasCycle (onward.tasks t ht)).1 ⟨x, hx, heq, cycle⟩)
    rw [world]
    exact ⟨x, List.mem_filter.2 ⟨hx, by simpa using hne⟩, rfl, cycle⟩
  refine ⟨?_, by rw [world]; exact now, by rw [world]; rfl, ?_,
    new, stays.trans hqueue, fun id hid => cycles id (hnew id hid), ?_⟩
  · obtain ⟨n, same⟩ := attends.turn [] ready (fun _ => rfl) fun _ => rfl
    rw [List.append_nil] at same
    exact ⟨own', ses', n, same ▸ world ▸ shows⟩
  · rintro id ⟨x, hx, hid, cycle⟩
    exact cycles id ⟨x, onward.tasks x hx, hid, cycle⟩
  · exact fun cycle =>
      absurd ((h.hasCycle ht).1 (cycle t.id (List.mem_singleton_self _))) noCycle

/-- The task that stands first in the queue has its turn. -/
theorem Shows.runNext (hosts : Hosts s e) (h : Shows s e own ses w v) {id : Nat} {rest : List Nat}
    (first : w.agenda.queue = id :: rest) (idle : w.agenda.current = none) :
    Steps s e [id] rest w v w.runNext := by
  obtain ⟨t, later, popped, ht, rfl, ready, prompt, h₁⟩ := h.pop first idle
  have clock : Agenda.readyJob w.now (soloWants e own v.feed t.work) ≠ none → v.now = w.now := by
    intro busy
    refine h.clock fun nothing => busy ?_
    rw [nothing] at ready
    simpa using (List.append_eq_nil_iff.1 ready.symm).1
  have employed := h₁.employed t ht
  change Shows s e own ses (w.running t rest) _ at h₁
  cases hwork : t.work with
  | cycle key epoch =>
    obtain ⟨w₂, due, ses₂, v₂, turn, h₂, still, attends, turned⟩ :=
      h₁.turnCycle ht hwork rfl hosts.period clock (prompt (by rw [hwork]; rfl))
    have verdict : (w.running t rest).turn t.id t.work = (w₂, .waits t.work due.toList) := by
      unfold World.turn
      simp only [hwork, turn]
    exact h.steps_waits ht popped ready prompt verdict h₂ still.onward attends turned
      (fun crowded => by rw [hwork] at crowded; cases crowded)
      fun _ => by rw [still.agenda]; rfl
  | pass p =>
    rw [hwork] at employed clock ready
    obtain ⟨w₂, after, dues, own₂, ses₂, v₂, turn, h₂, onward, attends, turned⟩ :=
      h₁.turnPass employed hosts.distinct hosts.names clock
    cases after with
    | none =>
      have verdict : (w.running t rest).turn t.id t.work = (w₂, .ended) := by
        unfold World.turn
        simp only [hwork, turn]
      exact h.steps_ended ht hwork popped ready verdict h₂ onward attends
    | some p' =>
      have verdict : (w.running t rest).turn t.id t.work = (w₂, .waits (.pass p') dues) := by
        unfold World.turn
        simp only [hwork, turn]
      have turned := turned p' rfl
      rw [← hwork] at ready turned
      have attends' : Solo.Attends s e w.now { v with ready := later }
          (soloWants e own v.feed t.work) v₂ (soloWants e own₂ v₂.feed (.pass p')) := by
        rw [hwork]
        exact attends
      have turned' : Turned s w.now ses₂ t.work (soloWants e own v.feed t.work) (.pass p')
          (soloWants e own₂ v₂.feed (.pass p')) dues := by
        rw [hwork] at turned ⊢
        exact turned
      refine h.steps_waits ht popped ready prompt verdict h₂ onward attends' turned' ?_ ?_
      · intro _
        rw [hwork]
        rfl
      · rintro ⟨key, n, heq⟩
        rw [hwork] at heq
        cases heq
  | metrics | opening | notification =>
    rw [hwork] at employed
    exact employed.elim

/-! ## Rounds -/

theorem Steps.cons {id : Nat} {turns rest : List Nat}
    (first : Steps s e [id] (turns ++ rest) w v w₁)
    (others : ∀ {own ses v₁ rest'}, Shows s e own ses w₁ v₁ → w₁.agenda.current = none →
      w₁.agenda.queue = turns ++ rest' → Steps s e turns rest' w₁ v₁ w₂) :
    Steps s e (id :: turns) rest w v w₂ := by
  obtain ⟨own, ses, n, h₁⟩ := first.shows
  obtain ⟨new, hqueue, hnew, hfirst⟩ := first.queue
  have last := others h₁ first.current (hqueue.trans (List.append_assoc ..))
  obtain ⟨own', ses', m, h₂⟩ := last.shows
  obtain ⟨new', hqueue', hnew', hlast⟩ := last.queue
  refine ⟨⟨own', ses', m + n, ?_⟩, last.now.trans first.now, last.current,
    fun id cycle => last.cycles id (first.cycles id cycle), new ++ new', ?_, ?_, ?_⟩
  · rw [Function.iterate_add_apply]
    exact h₂
  · rw [hqueue', List.append_assoc]
  · intro id hid
    rcases List.mem_append.1 hid with hid | hid
    · exact last.cycles id (hnew id hid)
    · exact hnew' id hid
  · intro cycles
    rw [hfirst fun x hx => cycles x (List.mem_singleton.1 hx ▸ List.mem_cons_self ..),
      hlast fun x hx => first.cycles x (cycles x (List.mem_cons_of_mem _ hx))]
    rfl

/-- Tasks have their turns one after the other. -/
theorem Shows.turns (hosts : Hosts s e) : ∀ (turns : List Nat) {rest : List Nat} {own : Option Nat}
    {ses : Polling.Session Handler} {w : World} {v : Solo}, Shows s e own ses w v →
    w.agenda.current = none → w.agenda.queue = turns ++ rest →
    Steps s e turns rest w v (turns.foldl (fun w _ => w.runNext) w)
  | [], rest, own, ses, w, v, h, idle, queue =>
    ⟨⟨own, ses, 0, h⟩, rfl, idle, fun _ cycle => cycle, [], by rw [List.append_nil]; exact queue,
      List.forall_mem_nil _, fun _ => rfl⟩
  | id :: turns, _, _, _, _, _, h, idle, queue =>
    (h.runNext hosts queue idle).cons fun h₁ idle₁ queue₁ => Shows.turns hosts turns h₁ idle₁ queue₁

theorem runRounds_of_idle (idle : w.agenda.queue = []) (n : Nat) : w.runRounds n = w := by
  cases n with
  | zero => rfl
  | succ n => simp [World.runRounds, idle]

theorem runRounds_succ (n : Nat) (w : World) : w.runRounds (n + 1) = w.runRound.runRounds n := by
  show (if w.agenda.queue.isEmpty then w else w.runRound.runRounds n) = _
  split
  · next idle =>
    have idle : w.agenda.queue = [] := by simpa using idle
    have still : w.runRound = w := by
      unfold World.runRound
      rw [idle]
      rfl
    rw [still, runRounds_of_idle idle]
  · rfl

/-- A world that shows a solo and in which no task can run. -/
structure Rests (s : ServiceConfig) (e : EndpointConfig) (w : World) (v : Solo) : Prop where
  shows : ∃ own ses, Shows s e own ses w v
  queue : w.agenda.queue = []
  current : w.agenda.current = none

theorem Rests.ready (h : Rests s e w v) : v.ready = [] := by
  obtain ⟨own, ses, shows⟩ := h.shows
  obtain ⟨blocks, lane⟩ := shows.lane
  rw [lane.ready, h.queue]
  rfl

/-- All that can run has run after two rounds: a round leaves nothing to run but cycles that begin in
it, and a round of cycles leaves nothing. -/
theorem Shows.settle (hosts : Hosts s e) (h : Shows s e own ses w v) (idle : w.agenda.current = none) :
    ∃ v', Rests s e w.settle v' ∧ v.Settles s e v' ∧ w.settle.now = w.now := by
  have first : Steps s e w.agenda.queue [] w v w.runRound :=
    h.turns hosts w.agenda.queue idle (List.append_nil _).symm
  obtain ⟨own₁, ses₁, n, h₁⟩ := first.shows
  obtain ⟨new, hqueue, hnew, -⟩ := first.queue
  have second : Steps s e w.runRound.agenda.queue [] w.runRound _ w.runRound.runRound :=
    h₁.turns hosts w.runRound.agenda.queue first.current (List.append_nil _).symm
  obtain ⟨own₂, ses₂, m, h₂⟩ := second.shows
  obtain ⟨new', hqueue', -, hnone⟩ := second.queue
  have settled : w.settle = w.runRound.runRound := by
    have empty : w.runRound.runRound.agenda.queue = [] := by
      rw [hqueue', hnone fun id hid => hnew id (by rwa [hqueue] at hid)]
      rfl
    exact (runRounds_succ 63 w).trans ((runRounds_succ 62 _).trans (runRounds_of_idle empty 62))
  have rests : Rests s e w.settle ((Solo.turn s e)^[m] ((Solo.turn s e)^[n] v)) := by
    rw [settled]
    refine ⟨⟨own₂, ses₂, h₂⟩, ?_, second.current⟩
    rw [hqueue', hnone fun id hid => hnew id (by rwa [hqueue] at hid)]
    rfl
  refine ⟨_, rests, ⟨m + n, ?_, rests.ready⟩, ?_⟩
  · rw [Function.iterate_add_apply]
  · rw [settled]
    exact second.now.trans first.now

/-! ## Time -/

theorem Rests.late (h : Rests s e w v) : ∀ τ ∈ w.agenda.timers, w.now < τ.due := by
  obtain ⟨own, ses, shows⟩ := h.shows
  obtain ⟨blocks, lane⟩ := shows.lane
  exact fun τ hτ => lane.late_of_timer hτ

/-- What waits for an instant has its timer. -/
theorem Rests.waits (h : Rests s e w v) {P : Nat → Prop} (all : ∀ τ ∈ w.agenda.timers, P τ.due) :
    ∀ p ∈ v.waiting, P p.1 := by
  obtain ⟨own, ses, shows⟩ := h.shows
  obtain ⟨blocks, lane⟩ := shows.lane
  intro p hp
  obtain ⟨τ, hτ, heq⟩ := lane.timer_of_waiting h.current hp
  exact heq ▸ all τ hτ

/-- An instant comes. If nothing waits for it, the clock of the solo may stand still. -/
theorem Rests.wakeAt (h : Rests s e w v) (later now : Nat)
    (clock : (v.wakeAt later).ready ≠ [] → now = later) :
    ∃ own ses, Shows s e own ses (w.wakeAt later) { v.wakeAt later with now } ∧
      (w.wakeAt later).agenda.current = none := by
  obtain ⟨own, ses, shows⟩ := h.shows
  obtain ⟨blocks, lane⟩ := shows.lane
  have fired := lane.fire h.queue h.current later
  have tasks : (w.agenda.fire later).tasks = w.agenda.tasks := by
    rw [Agenda.fire_timersOf lane.timers lane.distinct h.queue]
  have current : (w.agenda.fire later).current = none := by
    rw [Agenda.fire_timersOf lane.timers lane.distinct h.queue]
    exact h.current
  refine ⟨own, ses, { shows with
    clock, unaborted := ?_, employed := ?_, epochs := ?_, lane := ⟨_, fired⟩ }, current⟩
  · exact fun t ht => shows.unaborted t (tasks ▸ ht)
  · exact fun t ht => shows.employed t (tasks ▸ ht)
  · exact fun t ht x hx => shows.epochs t (tasks ▸ ht) x (tasks ▸ hx)

theorem wakeAt_early {later : Nat} (idle : v.ready = []) (early : ∀ p ∈ v.waiting, later < p.1) :
    { v.wakeAt later with now := v.now } = v := by
  have ready : (v.waiting.filterMap fun p => if p.1 ≤ later then some p.2 else none) = v.ready := by
    rw [idle, List.filterMap_eq_nil_iff]
    exact fun p hp => if_neg (Nat.not_le.2 (early p hp))
  have waiting : (v.waiting.filter fun p => decide (later < p.1)) = v.waiting :=
    List.filter_eq_self.2 fun p hp => decide_eq_true (early p hp)
  unfold Solo.wakeAt
  rw [ready, waiting]

/-- The instant of the next timer comes. It is one that the solo waits for, and the first of these, or it
makes no difference to the solo, whose clock stands still. -/
theorem Rests.tick (hosts : Hosts s e) (h : Rests s e w v) {due : Nat}
    (least : ∀ τ ∈ w.agenda.timers, due ≤ τ.due) :
    ∃ v₁, Rests s e (w.wakeAt due).settle v₁ ∧ (w.wakeAt due).settle.now = due ∧
      ((∃ p ∈ v.waiting, p.1 = due ∧ (∀ q ∈ v.waiting, p.1 ≤ q.1) ∧
        Solo.Settles s e (v.wakeAt p.1) v₁) ∨ v₁ = v) := by
  by_cases awaited : ∃ p ∈ v.waiting, p.1 = due
  · obtain ⟨p, hp, rfl⟩ := awaited
    obtain ⟨own, ses, shows, current⟩ := h.wakeAt p.1 p.1 fun _ => rfl
    obtain ⟨v₁, rests, settles, now⟩ := shows.settle hosts current
    exact ⟨v₁, rests, now, .inl ⟨p, hp, rfl, h.waits least, settles⟩⟩
  · have early : ∀ p ∈ v.waiting, due < p.1 := fun p hp =>
      Nat.lt_of_le_of_ne (h.waits least p hp) fun same => awaited ⟨p, hp, same.symm⟩
    have same := wakeAt_early h.ready early
    have nothing : (v.wakeAt due).ready = [] := (congrArg Solo.ready same).trans h.ready
    obtain ⟨own, ses, shows, current⟩ := h.wakeAt due v.now fun busy => absurd nothing busy
    rw [same] at shows
    obtain ⟨v₁, rests, settles, now⟩ := shows.settle hosts current
    exact ⟨v₁, rests, now, .inr (settles.unique (.refl h.ready))⟩

theorem timers_of_nextDue? {a : Time.Agenda Work} :
    (a.nextDue? = none → a.timers = []) ∧
      ∀ due, a.nextDue? = some due → (∃ τ ∈ a.timers, τ.due = due) ∧ ∀ τ ∈ a.timers, due ≤ τ.due := by
  unfold Agenda.nextDue?
  constructor
  · intro next
    rwa [List.min?_eq_none_iff, List.map_eq_nil_iff] at next
  · intro due next
    obtain ⟨hmem, least⟩ := List.min?_eq_some_iff.1 next
    exact ⟨List.mem_map.1 hmem, fun τ hτ => least τ.due (List.mem_map_of_mem hτ)⟩

/-- The world goes from timer to timer, and the solo from instant to instant that something waits
for. -/
theorem Rests.runTimers (hosts : Hosts s e) {target : Nat} : ∀ (fuel : Nat) {w : World} {v : Solo},
    Rests s e w v → target < w.now + fuel →
    ∃ v', Rests s e (w.runTimers (fun due => decide (due ≤ target)) fuel) v' ∧
      Solo.Elapses s e target v v' ∧
      ∀ τ ∈ (w.runTimers (fun due => decide (due ≤ target)) fuel).agenda.timers, target < τ.due
  | 0, w, v, h, enough => by
    have calm : ∀ τ ∈ w.agenda.timers, target < τ.due := fun τ hτ => Nat.lt_trans enough (h.late τ hτ)
    exact ⟨v, h, .done (h.waits calm), calm⟩
  | fuel + 1, w, v, h, enough => by
    unfold World.runTimers
    cases next : w.agenda.nextDue? with
    | none =>
      have calm : ∀ τ ∈ w.agenda.timers, target < τ.due := by simp [timers_of_nextDue?.1 next]
      exact ⟨v, h, .done (h.waits calm), calm⟩
    | some due =>
      obtain ⟨⟨first, hfirst, hdue⟩, least⟩ := timers_of_nextDue?.2 due next
      have ahead : w.now < due := hdue ▸ h.late first hfirst
      dsimp only
      by_cases within : due ≤ target
      · rw [if_pos (decide_eq_true within)]
        obtain ⟨v₁, rests, now, step⟩ := h.tick hosts least
        have enough' : target < (w.wakeAt due).settle.now + fuel := by
          rw [now]
          omega
        obtain ⟨v₂, rests', elapses, calm⟩ := rests.runTimers hosts fuel enough'
        rcases step with ⟨p, hp, rfl, least', settles⟩ | rfl
        · exact ⟨v₂, rests', .tick hp least' within settles elapses, calm⟩
        · exact ⟨v₂, rests', elapses, calm⟩
      · rw [if_neg (by simpa using within)]
        have calm : ∀ τ ∈ w.agenda.timers, target < τ.due := fun τ hτ =>
          Nat.lt_of_lt_of_le (Nat.not_le.1 within) (least τ hτ)
        exact ⟨v, h, .done (h.waits calm), calm⟩

theorem fire_early {a : Time.Agenda Work} {later : Nat} (early : ∀ τ ∈ a.timers, later < τ.due) :
    a.fire later = a := by
  have none : (a.timers.filter fun τ => decide (τ.due ≤ later)) = [] :=
    List.filter_eq_nil_iff.2 fun τ hτ => by simpa using early τ hτ
  have all : (a.timers.filter fun τ => decide (later < τ.due)) = a.timers :=
    List.filter_eq_self.2 fun τ hτ => decide_eq_true (early τ hτ)
  unfold Agenda.fire
  rw [none, all]
  rfl

/-- A time passes. -/
theorem Rests.advance (hosts : Hosts s e) (h : Rests s e w v) (ms : Nat) :
    ∃ v', Solo.Elapses s e (w.now + ms) v v' ∧
      Rests s e (w.advance ms) { v' with now := w.now + ms } := by
  obtain ⟨v', rests, elapses, calm⟩ := h.runTimers hosts (ms + 1) (show w.now + ms < _ by omega)
  refine ⟨v', elapses, ?_⟩
  have settled : w.settle = w := runRounds_of_idle h.queue _
  generalize hw' : w.runTimers (fun due => decide (due ≤ w.now + ms)) (ms + 1) = w' at rests calm
  have world : w.advance ms = w'.wakeAt (w.now + ms) := by
    unfold World.advance World.wakeAt
    rw [settled]
    simp only [hw', fire_early calm]
  have early : ∀ p ∈ v'.waiting, w.now + ms < p.1 := rests.waits calm
  obtain ⟨own, ses, shows, current⟩ := rests.wakeAt (w.now + ms) (w.now + ms) fun _ => rfl
  have same := wakeAt_early rests.ready early
  rw [world]
  refine ⟨⟨own, ses, ?_⟩, ?_, current⟩
  · rw [← same]
    exact shows
  · show (w'.agenda.fire (w.now + ms)).queue = []
    rw [fire_early calm]
    exact rests.queue

end TopicRelay.Simulation
