/-
Worlds in which no service runs. Passes and cycles that a service leaves behind when it is stopped come
to their ends, and timers fire, but nothing of this sends a request, asks for a topic or publishes: the
history keeps what it has of any endpoint.
-/
import TopicRelay.Proofs.Simulation.Concerning

namespace TopicRelay.Simulation

open TopicRelay.Broker TopicRelay.Config TopicRelay.Content TopicRelay.Control
open TopicRelay.Polling TopicRelay.Publication TopicRelay.Time

variable {s : ServiceConfig} {e : EndpointConfig} {told : History} {w : World}

/-- Work that a service leaves behind. -/
def Work.isLeft : Work → Bool
  | .pass _ | .cycle _ _ => true
  | _ => false

/-- A world in which no service runs, and which has so much to tell of an endpoint. -/
structure Hushed (s : ServiceConfig) (e : EndpointConfig) (told : History) (w : World) : Prop where
  told : w.history.concerning s e = told
  silent : ∀ m ∈ w.members, m.session.Silent ∧ m.stopOn = none
  left : ∀ t ∈ w.agenda.tasks, t.work.isLeft = true
  kept : w.standIn.kept = []
  unmanaged : w.managerOrNew.running = []

namespace Hushed

theorem record (h : Hushed s e told w) {x : Happening} (passes : x.passes s e = true) :
    Hushed s e told (w.record x) :=
  { h with told := (concerning_of_passes passes w.now w.history).trans h.told }

theorem say (h : Hushed s e told w) {entry : Log.Entry} (other : entry.event ≠ "poll_publish_ok") :
    Hushed s e told (w.say entry) :=
  h.record (by simp [Happening.passes, tellsOf_of_event other])

theorem alike {w₁ : World} (h : Hushed s e told w) (alike : Alike s e w w₁) : Hushed s e told w₁ where
  told := alike.told.trans h.told
  silent := by rw [alike.members]; exact h.silent
  left := by rw [alike.agenda]; exact h.left
  kept := by rw [alike.standIn]; exact h.kept
  unmanaged := by
    show (w₁.manager.getD { owner := .manager }).running = []
    rw [alike.manager]
    exact h.unmanaged

theorem isStopped (h : Hushed s e told w) (key : SessionKey) : w.isStopped key = true := by
  unfold World.isStopped World.member?
  cases found : w.members.find? fun m => m.key == key with
  | none => rfl
  | some m => exact (h.silent m (List.mem_of_find?_eq_some found)).1.ended

/-- The agenda may change, as long as nothing else is to be done. -/
theorem agenda (h : Hushed s e told w) {a : Time.Agenda Work}
    (left : ∀ t ∈ a.tasks, t.work.isLeft = true) : Hushed s e told { w with agenda := a } :=
  { h with left }

theorem setSession (h : Hushed s e told w) {ses : Polling.Session Handler} (silent : ses.Silent)
    (key : SessionKey) : Hushed s e told (w.setSession key ses) where
  told := h.told
  silent := by
    intro m hm
    obtain ⟨x, hx, rfl⟩ := List.mem_map.1 hm
    split
    · exact ⟨silent, (h.silent x hx).2⟩
    · exact h.silent x hx
  left := h.left
  kept := h.kept
  unmanaged := h.unmanaged

/-! ## Cycles -/

theorem pollEvent (h : Hushed s e told w) (key : SessionKey) (ev : PollEvent) :
    Hushed s e told (w.pollEvent key ev) := by
  unfold World.pollEvent World.member?
  cases found : w.members.find? fun m => m.key == key with
  | none => exact h
  | some m =>
    have unarmed := (h.silent m (List.mem_of_find?_eq_some found)).2
    simp only [unarmed, reduceCtorEq, if_false]
    split
    · exact { h with }
    · exact h

end Hushed

theorem event_of_step {η : Type} {ses ses' : Polling.Session η} {ds : List (Deed η)}
    (step : ses.Step ses' ds) {entry : Log.Entry} (hd : .cycle (.log entry) ∈ ds) :
    entry.event ≠ "poll_publish_ok" := by
  cases step with
  | advanced there advance =>
    cases advance with
    | prepared rests wanted => simp_all [Polling.Session.requestEntry, Polling.Session.entry]
    | skipped | sent | delivered => simp at hd
    | refused => simp_all [Polling.Session.answerEntry, Polling.Session.entry]
    | received asked =>
      rename_i due a b
      cases b <;> simp_all [Polling.Session.answerEntry, Polling.Session.entry]
    | discarded => simp_all [Polling.Session.discardedEntry, Polling.Session.entry]
  | dropped there cancelled abandons =>
    rw [abandons] at hd
    split at hd <;> simp at hd
  | idle | ignored | started | tracked | added | stopped => simp at hd

namespace Hushed

theorem performCycle (h : Hushed s e told w) (m : Member) {x : CycleEffect Handler}
    (idle : (Deed.cycle x).acts = false)
    (event : ∀ entry, x = .log entry → entry.event ≠ "poll_publish_ok") :
    Hushed s e told (w.performCycle m x) := by
  cases x with
  | log entry => exact h.say (event entry rfl)
  | tell ev => exact h.pollEvent m.key ev
  | send c | deliver c handler a => cases idle
  | settle c a =>
    exact { h.record (x := .answered (World.pollRequest m c)) rfl with }
  | abandon c =>
    exact { h.record (x := .abandoned (World.pollRequest m c)) rfl with }

/-- Whatever step a cycle takes, nothing comes of it. -/
theorem moveCycle (h : Hushed s e told w) (key : SessionKey)
    {step : Polling.Session Handler → Polling.Session Handler × List (CycleEffect Handler)}
    (moves : ∀ ses, Polling.Session.Step ses (step ses).1 ((step ses).2.map .cycle)) :
    Hushed s e told (w.moveCycle key step) := by
  unfold World.moveCycle World.member?
  cases found : w.members.find? fun m => m.key == key with
  | none => exact h
  | some m =>
    have silent := (h.silent m (List.mem_of_find?_eq_some found)).1
    obtain ⟨silent', idle⟩ := (moves m.session).silent silent
    have event : ∀ x ∈ (step m.session).2, ∀ entry, x = .log entry →
        entry.event ≠ "poll_publish_ok" := by
      rintro x hx entry rfl
      exact event_of_step (moves m.session) (List.mem_map_of_mem hx)
    have idle' : ∀ x ∈ (step m.session).2, (Deed.cycle x).acts = false := fun x hx =>
      idle _ (List.mem_map_of_mem hx)
    show Hushed s e told ((step m.session).2.foldl (World.performCycle m)
      (w.setSession key (step m.session).1))
    have put := h.setSession silent' key
    -- induction on the effects, none of which acts, from the world with the session put in place
    generalize w.setSession key (step m.session).1 = w' at put
    generalize (step m.session).2 = effects at event idle'
    induction effects generalizing w' with
    | nil => exact put
    | cons x rest ih =>
      refine ih _ (put.performCycle m (idle' x (List.mem_cons_self ..)) (event x (List.mem_cons_self ..)))
        (fun y hy => event y (List.mem_cons_of_mem _ hy))
        (fun y hy => idle' y (List.mem_cons_of_mem _ hy))

theorem turnCycle (h : Hushed s e told w) (key : SessionKey) (epoch : Nat) :
    Hushed s e told (w.turnCycle key epoch).1 := by
  have prepared := h.moveCycle key fun ses => ses.step_prepare w.now epoch
  have sent : Hushed s e told
      ((w.moveCycle key fun s => s.prepare w.now epoch).sendPoll key epoch) := by
    unfold World.sendPoll
    split
    · exact prepared
    · exact prepared.moveCycle key fun ses => ses.step_send _ _ epoch
  unfold World.turnCycle
  split
  · exact (sent.moveCycle key fun ses => ses.step_receive _ epoch).moveCycle key
      fun ses => ses.step_conclude _ epoch
  · exact h

/-! ## Bring-ups -/

theorem endBringUp (h : Hushed s e told w) (p : Pass) (x : EndpointConfig)
    (result : Except InitialisationError PayloadKind) :
    Hushed s e told (w.endBringUp p x result).1 := by
  have silent : (bringUpEnded p.service x result).event ≠ "poll_publish_ok" := by
    unfold bringUpEnded
    split <;> simp [bringUpEntry]
  unfold World.endBringUp
  dsimp only
  split
  · exact h.say silent
  · exact (h.say silent).record rfl

theorem concludeBringUp (h : Hushed s e told w) (p : Pass) (x : EndpointConfig) (a : Answer) :
    Hushed s e told (w.concludeBringUp p x a).1 := by
  have answered : Hushed s e told (w.answered p x) :=
    { h.record (x := .answered (World.bringUpRequest p x)) rfl with }
  cases settled : resolveAnswer x a with
  | error err =>
    rw [concludeBringUp_of_error w p settled]
    exact answered.endBringUp p x _
  | ok r =>
    -- a session that is stopped, or gone, takes no endpoint
    have refused : (w.answered p x).bindResolved p x r =
        (w.answered p x, .error (.serviceRemoved p.service.name)) :=
      if_pos (answered.isStopped p.session)
    rw [concludeBringUp_of_ok w p settled, refused]
    exact answered.endBringUp p x _

theorem turnBringUp (h : Hushed s e told w) (p : Pass) (x : EndpointConfig) (progress : Progress) :
    Hushed s e told (w.turnBringUp p x progress).1 := by
  cases progress with
  | pending =>
    have said : Hushed s e told (w.say (bringUpStarted p.service x)) :=
      h.say (by simp [bringUpStarted, bringUpEntry])
    unfold World.turnBringUp World.beginBringUp
    dsimp only
    rw [if_pos (said.isStopped p.session)]
    exact said.endBringUp p x _
  | requesting due a =>
    unfold World.turnBringUp
    dsimp only
    split
    · exact h.concludeBringUp p x a
    · exact h
  | done result => exact h

theorem turnParts (p : Pass) : ∀ {parts : List (EndpointConfig × Progress)} {w : World},
    Hushed s e told w → Hushed s e told (w.turnParts p parts).1
  | [], _, h => h
  | (x, progress) :: rest, w, h => by
    have first := h.turnBringUp p x progress
    show Hushed s e told ((w.turnBringUp p x progress).1.turnParts p rest).1
    exact turnParts p first

theorem turnPass (h : Hushed s e told w) (p : Pass) : Hushed s e told (w.turnPass p).1 := by
  have started : Hushed s e told (w.startSession p.session).1 := by
    unfold World.startSession World.member?
    cases found : w.members.find? fun m => m.key == p.session with
    | none => exact h
    | some m =>
      have silent := (h.silent m (List.mem_of_find?_eq_some found)).1
      simp only [silent.start]
      exact (h.setSession silent p.session).say
        (by simp [Polling.Session.ignoredEntry, Polling.Session.entry])
  have begun : Hushed s e told
      (if p.wholeService && !p.begun then w.startSession p.session else (w, true)).1 := by
    split
    · exact started
    · exact h
  unfold World.turnPass
  generalize (if p.wholeService && !p.begun then w.startSession p.session else (w, true)) = begin at begun
  obtain ⟨w', live⟩ := begin
  have turned : Hushed s e told (w'.turnParts p p.parts).1 := turnParts p begun
  dsimp only
  cases live with
  | false => exact begun
  | true =>
    rw [if_pos rfl]
    split
    · split
      · exact turned.say (by simp [World.passEntry, World.starterEntry])
      · exact turned
    · exact turned

/-! ## Turns -/

theorem isLeft_setWork {a : Time.Agenda Work} (left : ∀ t ∈ a.tasks, t.work.isLeft = true) (id : Nat)
    {work : Work} (is : work.isLeft = true) : ∀ t ∈ (a.setWork id work).tasks, t.work.isLeft = true := by
  intro t ht
  obtain ⟨x, hx, rfl⟩ := List.mem_map.1 ht
  split
  · exact is
  · exact left x hx

theorem isLeft_abort {a : Time.Agenda Work} (left : ∀ t ∈ a.tasks, t.work.isLeft = true) (id : Nat) :
    ∀ t ∈ (a.abort id).tasks, t.work.isLeft = true := by
  have marked : ∀ t ∈ (a.mapTask id fun t => { t with aborted := true }).tasks,
      t.work.isLeft = true := by
    intro t ht
    obtain ⟨x, hx, rfl⟩ := List.mem_map.1 ht
    split <;> exact left x hx
  unfold Agenda.abort
  dsimp only
  split
  · exact marked
  · rw [Agenda.tasks_wake]
    exact marked

theorem isLeft_abortWhere {a : Time.Agenda Work} (left : ∀ t ∈ a.tasks, t.work.isLeft = true)
    (which : Work → Bool) : ∀ t ∈ (a.abortWhere which).tasks, t.work.isLeft = true := by
  unfold Agenda.abortWhere
  generalize a.tasks.filter (fun t => which t.work) = ts
  induction ts generalizing a with
  | nil => exact left
  | cons t rest ih => exact ih (isLeft_abort left t.id)

/-- A session is stopped where nothing else runs. -/
theorem stopped (h : Hushed s e told w) (key : SessionKey) (ses : Polling.Session Handler) :
    Hushed s e told (ses.stop.2.foldl (World.performSession key) w) := by
  have quiet : ∀ x ∈ ses.stop.2,
      (∃ epoch, x = .cancel epoch) ∨ ∃ entry, x = .log entry ∧ entry.event ≠ "poll_publish_ok" := by
    intro x hx
    rcases List.mem_append.1 hx with hx | hx
    · obtain ⟨slot, -, rfl⟩ := List.mem_map.1 hx
      exact .inl ⟨_, rfl⟩
    · split at hx
      · obtain rfl := List.mem_singleton.1 hx
        exact .inr ⟨_, rfl, by simp [Polling.Session.entry]⟩
      · cases hx
  generalize ses.stop.2 = effects at quiet
  induction effects generalizing w with
  | nil => exact h
  | cons x rest ih =>
    refine ih ?_ fun y hy => quiet y (List.mem_cons_of_mem _ hy)
    rcases quiet x (List.mem_cons_self ..) with ⟨epoch, rfl⟩ | ⟨entry, rfl, other⟩
    · exact h.agenda (isLeft_abortWhere h.left _)
    · exact h.say other

theorem dropTask (h : Hushed s e told w) (id : Nat) (work : Work) :
    Hushed s e told (w.dropTask id work) := by
  have dropped : ∀ {w}, Hushed s e told w → Hushed s e told { w with agenda := w.agenda.finish id } :=
    fun h => h.agenda fun t ht => h.left t (List.mem_filter.1 ht).1
  unfold World.dropTask
  cases work with
  | cycle key epoch => exact dropped (h.moveCycle key fun ses => ses.step_dropCycle epoch)
  | metrics | pass | opening | notification => exact dropped h

theorem letGo (h : Hushed s e told w) : Hushed s e told w.letGo := by
  have kept : ∀ m ∈ (w.members.partition fun m =>
      w.heldSessions.contains m.key || World.hasRequest m).1, m ∈ w.members := by
    intro m hm
    rw [List.partition_eq_filter_filter] at hm
    exact (List.mem_filter.1 hm).1
  have left : ∀ (gone : Member → Work → Bool) (ms : List Member) (a : Time.Agenda Work),
      (∀ t ∈ a.tasks, t.work.isLeft = true) →
      ∀ t ∈ (ms.foldl (fun a m => a.abortWhere (gone m)) a).tasks, t.work.isLeft = true := by
    intro gone ms
    induction ms with
    | nil => exact fun a left => left
    | cons m rest ih => exact fun a left => ih _ (isLeft_abortWhere left _)
  exact { h with
    silent := fun m hm => h.silent m (kept m hm)
    left := left _ _ w.agenda h.left }

theorem suspend (h : Hushed s e told w) (id : Nat) {work : Work} (is : work.isLeft = true)
    (dues : List Nat) : Hushed s e told (w.suspend id work dues) := by
  have put := isLeft_setWork h.left id is
  have slept : ∀ (dues : List Nat) (a : Time.Agenda Work),
      (dues.foldl (fun a due => a.sleep id due) a).tasks = a.tasks := by
    intro dues
    induction dues with
    | nil => exact fun _ => rfl
    | cons due rest ih => exact fun a => ih _
  have rests := h.agenda (a := { dues.foldl (fun a due => a.sleep id due) (w.agenda.setWork id work) with
    current := none }) (by rw [show _ = _ from slept dues _]; exact put)
  unfold World.suspend
  dsimp only
  split
  · exact rests.dropTask id work
  · exact rests

/-- A task has its turn, or is dropped. -/
theorem runNext (h : Hushed s e told w) : Hushed s e told w.runNext := by
  unfold World.runNext
  cases popped : w.agenda.pop? with
  | none => exact h.agenda h.left
  | some q =>
    obtain ⟨t, a⟩ := q
    have there : t ∈ w.agenda.tasks ∧ a.tasks = w.agenda.tasks := by
      unfold Agenda.pop? at popped
      split at popped
      · cases popped
      · split at popped
        · cases popped
        · next x found =>
          cases popped
          exact ⟨List.mem_of_find?_eq_some found, rfl⟩
    have begun : Hushed s e told { w with agenda := a } := h.agenda (there.2 ▸ h.left)
    have is := h.left t there.1
    dsimp only
    split
    · exact ((begun.agenda (a := { a with current := none }) begun.left).dropTask t.id t.work).letGo
    · cases hwork : t.work with
      | cycle key epoch =>
        have turned := begun.turnCycle key epoch
        exact (turned.suspend t.id rfl _).letGo
      | pass p =>
        have turned := begun.turnPass p
        unfold World.turn
        dsimp only
        generalize ({ w with agenda := a } : World).turnPass p = result at turned
        obtain ⟨w', after, dues⟩ := result
        cases after with
        | none =>
          exact ((turned.agenda (a := { w'.agenda with current := none }) turned.left).dropTask t.id
            (.pass p)).letGo
        | some p' => exact (turned.suspend t.id rfl dues).letGo
      | metrics | opening | notification =>
        rw [hwork] at is
        cases is

theorem settle (h : Hushed s e told w) : Hushed s e told w.settle := by
  have round : ∀ (turns : List Nat) {w : World}, Hushed s e told w →
      Hushed s e told (turns.foldl (fun w _ => w.runNext) w) := by
    intro turns
    induction turns with
    | nil => exact fun h => h
    | cons _ rest ih => exact fun h => ih h.runNext
  have rounds : ∀ (n : Nat) {w : World}, Hushed s e told w → Hushed s e told (w.runRounds n) := by
    intro n
    induction n with
    | zero => exact fun h => h
    | succ n ih =>
      intro w h
      unfold World.runRounds
      split
      · exact h
      · exact ih (round w.agenda.queue h)
  exact rounds _ h

/-! ## Time -/

theorem wakeAt (h : Hushed s e told w) (now : Nat) : Hushed s e told (w.wakeAt now) := by
  have woken : ∀ (ts : List Timer) (a : Time.Agenda Work),
      (ts.foldl (fun a t => a.wake t.task) a).tasks = a.tasks := by
    intro ts
    induction ts with
    | nil => exact fun _ => rfl
    | cons t rest ih => exact fun a => (ih _).trans (Agenda.tasks_wake a t.task)
  have same : (w.agenda.fire now).tasks = w.agenda.tasks := woken _ _
  exact { h with left := same ▸ h.left }

theorem runTimers (within : Nat → Bool) : ∀ (fuel : Nat) {w : World}, Hushed s e told w →
    Hushed s e told (w.runTimers within fuel)
  | 0, _, h => h
  | fuel + 1, w, h => by
    unfold World.runTimers
    split
    · exact h
    · split
      · exact runTimers within fuel (h.wakeAt _).settle
      · exact h

theorem advance (h : Hushed s e told w) (ms : Nat) : Hushed s e told (w.advance ms) :=
  { runTimers (fun due => decide (due ≤ w.now + ms)) (ms + 1) h.settle with }

end Hushed
end TopicRelay.Simulation
