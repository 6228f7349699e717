/-
The service manager and the model feed in the world. The manager has been studied with the sessions that
it holds, and the feed with the lifecycle and the recurring logs that are alive; the world has all of them
in their places. `Manages` and `Feeds` say that a manager or a feeding is the one of the world. What the
world does for a chore, an operation, an offer or an event of the lifecycle is then what the manager does
at work, one chore after the other, or what a turn of the feeding does.

Chores and effects of the lifecycle reach the sources, the history and the tasks of cycles and bring-ups
as well. `Untouched` says that all of this leaves the lifecycle, the feed, the manager and the recurring
logs alone.
-/
import TopicRelay.Proofs.Control.Feeding
import TopicRelay.Proofs.Control.Manager
import TopicRelay.Proofs.Simulation.Followed

namespace TopicRelay.Simulation

open TopicRelay.Broker TopicRelay.Config TopicRelay.Content TopicRelay.Control
open TopicRelay.Polling TopicRelay.Publication TopicRelay.Time

/-! ## What is read off the world -/

/-- The recurring log that work is. -/
def Work.metrics? : Work → Option MetricsTask
  | .metrics t _ => some t
  | _ => none

/-- The recurring log that a task is, unless it has been aborted. -/
def aliveLog? (t : Time.Task Work) : Option MetricsTask :=
  if t.aborted then none else t.work.metrics?

namespace World

/-- The recurring logs that are alive. -/
def aliveLogs (w : World) : List MetricsTask :=
  w.agenda.tasks.filterMap aliveLog?

/-- The sessions of an owner, under their keys. -/
def sessionsOf (o : Owner) (w : World) : List (SessionKey × Polling.Session Handler) :=
  (w.members.filter fun m => m.key.owner == o).map fun m => (m.key, m.session)

/-- The lifecycle, the feed, the manager and the recurring logs are left alone, and so is what the
lifecycle finds outside. -/
structure Untouched (w w' : World) : Prop where
  lifecycle : w'.lifecycle = w.lifecycle
  feed : w'.feed = w.feed
  manager : w'.manager = w.manager
  surroundings : w'.surroundings = w.surroundings
  numbered : w.agenda.Numbered → w'.agenda.Numbered
  logs : w.agenda.Numbered → w'.aliveLogs = w.aliveLogs

/-- A feeding is that of the world: its lifecycle, its feed and its recurring logs. -/
structure Feeds (s : Feeding) (w : World) : Prop where
  lifecycle : w.lifecycle = some s.life
  feed : w.feed.getD {} = s.feed
  alive : w.aliveLogs = s.alive
  numbered : w.agenda.Numbered

/-- A manager is that of the world: its services, and the sessions of its owner. The keys of sessions,
held or still to be held, are told apart, and those of the owner have been given out. -/
structure Manages (s : Manager Handler) (w : World) : Prop where
  services : w.managerOrNew = s.services
  sessions : w.sessionsOf s.services.owner = s.sessions
  distinct : (w.members.map (·.key) ++ s.awaited.map (·.session)).Nodup
  given : ∀ key ∈ w.members.map (·.key) ++ s.awaited.map (·.session),
    key.owner = s.services.owner → key.number < s.services.nextNumber
  own : ∀ r ∈ s.awaited, r.session.owner = s.services.owner

end World

/-- The turns in which a manager does chores that stand first, each with its result. -/
def inTurn (result : Chore → Except PublishingError Unit) (cs : List Chore) :
    List (Manager.Turn ServiceError Handler) :=
  cs.map fun c => .work 0 (result c)

variable {w w' w₁ : World} {key : SessionKey} {f : Feeding}
  {s : Manager Handler} {m : Member}

/-! ## What leaves the recurring logs alone -/

namespace World

namespace Untouched

theorem refl (w : World) : Untouched w w :=
  ⟨rfl, rfl, rfl, rfl, id, fun _ => rfl⟩

theorem trans (h : Untouched w w₁) (h' : Untouched w₁ w') : Untouched w w' where
  lifecycle := h'.lifecycle.trans h.lifecycle
  feed := h'.feed.trans h.feed
  manager := h'.manager.trans h.manager
  surroundings := h'.surroundings.trans h.surroundings
  numbered := fun n => h'.numbered (h.numbered n)
  logs := fun n => (h'.logs (h.numbered n)).trans (h.logs n)

/-- New work that is no recurring log. -/
theorem spawn {work : Work} (other : work.metrics? = none) (w : World) :
    Untouched w { w with agenda := w.agenda.spawn work } where
  lifecycle := rfl
  feed := rfl
  manager := rfl
  surroundings := rfl
  numbered := fun n => n.spawn work
  logs := fun _ => by simp [aliveLogs, Agenda.spawn, aliveLog?, other]

/-- Work is aborted that is no recurring log. -/
theorem abortWhere {p : Work → Bool} (others : ∀ work, p work = true → work.metrics? = none)
    (w : World) : Untouched w { w with agenda := w.agenda.abortWhere p } where
  lifecycle := rfl
  feed := rfl
  manager := rfl
  surroundings := rfl
  numbered := fun n => n.abortWhere p
  logs := fun n => by
    rw [aliveLogs, aliveLogs, Agenda.tasks_abortWhere n, List.filterMap_map]
    refine List.filterMap_congr fun t _ => ?_
    by_cases chosen : p t.work = true
    · simp [aliveLog?, chosen, others t.work chosen]
    · simp [chosen]

end Untouched

theorem untouched_setRegistry (c : Client) (r : Registry Hook) (w : World) :
    Untouched w (w.setRegistry c r) := by
  cases c <;> exact ⟨rfl, rfl, rfl, rfl, id, fun _ => rfl⟩

theorem untouched_notify (h : Hook) (w : World) : Untouched w (w.notify h) := by
  unfold notify
  split <;> exact ⟨rfl, rfl, rfl, rfl, id, fun _ => rfl⟩

theorem untouched_say (e : Log.Entry) (w : World) : Untouched w (w.say e) :=
  ⟨rfl, rfl, rfl, rfl, id, fun _ => rfl⟩

theorem untouched_runHook (h : Hook) (w : World) : Untouched w (w.runHook h) := by
  unfold runHook
  split
  · exact (untouched_say _ w).trans (untouched_notify h _)
  · exact (untouched_say _ w).trans (untouched_notify h _)
  · exact ((untouched_say _ w).trans (untouched_notify h _)).trans (.spawn rfl _)

theorem untouched_heed : ∀ (told : List (Notice Hook)) (w : World), Untouched w (w.heed told)
  | [], w => .refl w
  | .moved _ _ :: rest, w => (untouched_say _ w).trans (untouched_heed rest _)
  | .ran h :: rest, w => (untouched_runHook h w).trans (untouched_heed rest _)

theorem untouched_sources (c : Client) (r : Registry Hook) (told : List (Notice Hook)) (w : World) :
    Untouched w ((w.setRegistry c r).heed told) :=
  (untouched_setRegistry c r w).trans (untouched_heed told _)

theorem untouched_removeService (c : Client) (s : ServiceConfig) (w : World) :
    Untouched w (w.removeService c s).1 := by
  cases c with
  | standIn =>
    have asked : Untouched w (w.record (.removalAsked s.name)) := ⟨rfl, rfl, rfl, rfl, id, fun _ => rfl⟩
    exact asked.trans (untouched_sources .standIn _ _ _)
  | logOnly n =>
    have removed := untouched_sources (.logOnly n) ((w.registry (.logOnly n)).remove s.name).1
      ((w.registry (.logOnly n)).remove s.name).2.1 w
    simp only [removeService]
    generalize (w.registry (.logOnly n)).remove s.name = out at removed ⊢
    obtain ⟨reg, told, _ | _⟩ := out
    · exact removed
    · exact removed.trans (untouched_say _ _)

theorem untouched_announce (c : Client) (s : ServiceConfig) (w : World) :
    Untouched w (w.announce c s) := by
  cases c <;> exact ⟨rfl, rfl, rfl, rfl, id, fun _ => rfl⟩

theorem untouched_performSession (key : SessionKey) : ∀ (effects : List SessionEffect) (w : World),
    Untouched w (effects.foldl (performSession key) w)
  | [], w => .refl w
  | .log e :: rest, w => (untouched_say e w).trans (untouched_performSession key rest _)
  | .spawn _ _ :: rest, w => (Untouched.spawn rfl w).trans (untouched_performSession key rest _)
  | .cancel epoch :: rest, w => by
    refine (Untouched.abortWhere (fun work cycle => ?_) w).trans (untouched_performSession key rest _)
    cases work with
    | metrics => cases cycle
    | cycle | pass | opening | notification => rfl

theorem untouched_stopSession (key : SessionKey) (w : World) : Untouched w (w.stopSession key) := by
  unfold stopSession
  split
  · exact .refl w
  · have put (s : Polling.Session Handler) : Untouched w (w.setSession key s) :=
      ⟨rfl, rfl, rfl, rfl, id, fun _ => rfl⟩
    exact (put _).trans (untouched_performSession key _ _)

theorem untouched_performChore (c : Chore) (w : World) : Untouched w (w.performChore c) := by
  cases c with
  | stop r => exact untouched_stopSession r.session w
  | remove r => exact (untouched_removeService _ _ w).trans (untouched_say _ _)
  | launch r =>
    have held (m : Member) : Untouched w (w.addMember m) := ⟨rfl, rfl, rfl, rfl, id, fun _ => rfl⟩
    exact (((held _).trans (untouched_announce _ _ _)).trans (untouched_sources _ _ _ _)).trans
      (untouched_sources _ _ _ _)

theorem untouched_performServices (e : ServicesEffect) (w : World) :
    Untouched w (w.performServices e) := by
  cases e with
  | log e => exact untouched_say e w
  | retire r => exact (untouched_performChore (.stop r) w).trans (untouched_performChore (.remove r) _)
  | launch r => exact untouched_performChore (.launch r) w

theorem untouched_closeBroker (s : Broker.Session) (w : World) : Untouched w (w.closeBroker s) := by
  unfold closeBroker
  split
  · exact ⟨rfl, rfl, rfl, rfl, id, fun _ => rfl⟩
  · exact (untouched_sources _ _ _ w).trans (untouched_say _ _)

theorem untouched_performLifecycle (e : LifecycleEffect) (w : World) :
    Untouched w (w.performLifecycle e) := by
  cases e with
  | log e => exact untouched_say e w
  | services e => exact untouched_performServices e w
  | httpBuilt | shutdown => exact ⟨rfl, rfl, rfl, rfl, id, fun _ => rfl⟩
  | openSession => exact .spawn rfl w
  | closeSession s => exact untouched_closeBroker s w

theorem untouched_foldl {α : Type} {f : World → α → World} (each : ∀ w a, Untouched w (f w a)) :
    ∀ (as : List α) (w : World), Untouched w (as.foldl f w)
  | [], w => .refl w
  | a :: rest, w => (each w a).trans (untouched_foldl each rest _)

/-! ## The model feed -/

/-- Before the first offer. -/
theorem feeds_start {shutdownAwaited observed : Bool}
    (fresh : w.lifecycle = some (.fresh shutdownAwaited observed)) (feed : w.feed = none)
    (alive : w.aliveLogs = []) (numbered : w.agenda.Numbered) :
    Feeds (.start shutdownAwaited observed) w :=
  ⟨fresh, by rw [feed]; rfl, alive, numbered⟩

/-- The lifecycle takes an event; the feed and the recurring logs stay. -/
theorem Feeds.drive (h : Feeds f w) (ev : LifecycleEvent) :
    Feeds { f with life := (f.life.step w.surroundings ev).life } (w.drive ev).1 ∧
      (w.drive ev).1.surroundings = w.surroundings := by
  have untouched := untouched_foldl (fun w e => untouched_performLifecycle e w)
    (f.life.step w.surroundings ev).effects
    { w with lifecycle := some (f.life.step w.surroundings ev).life }
  unfold World.drive
  rw [h.lifecycle]
  refine ⟨⟨untouched.lifecycle, ?_, ?_, untouched.numbered h.numbered⟩, untouched.surroundings⟩
  · rw [untouched.feed]
    exact h.feed
  · exact (untouched.logs h.numbered).trans h.alive

/-- What comes in from elsewhere is a turn of the feeding. -/
theorem Feeds.outside (h : Feeds f w) (o : Outside) (env : o.env = w.surroundings) :
    Feeds (f.take (.outside o)) (w.drive o.event).1 := by
  have taken := (h.drive o.event).1
  rw [← env] at taken
  exact taken

/-- The recurring log that is cancelled is not alive any more. -/
theorem aliveLogs_cancel (numbered : w.agenda.Numbered) (t : MetricsTask) :
    (w.performFeed (.cancelMetrics t)).aliveLogs = w.aliveLogs.filter (· != t) := by
  show (w.agenda.abortWhere (isMetrics t)).tasks.filterMap aliveLog? = _
  rw [Agenda.tasks_abortWhere numbered, List.filterMap_map, aliveLogs, List.filter_filterMap]
  refine List.filterMap_congr fun task _ => ?_
  obtain ⟨id, work, aborted⟩ := task
  cases work with
  | metrics u due =>
    by_cases own : u = t <;> cases aborted <;>
      simp [aliveLog?, isMetrics, Work.metrics?, Option.filter, own]
  | cycle | pass | opening | notification => cases aborted <;> rfl

/-- An effect of the feed takes place as in the feeding. -/
theorem Feeds.performFeed (h : Feeds f w) (e : FeedEffect) :
    Feeds (f.perform [] w.surroundings e) (w.performFeed e) ∧
      (w.performFeed e).surroundings = w.surroundings := by
  cases e with
  | cancelMetrics t =>
    refine ⟨⟨h.lifecycle, h.feed, ?_, h.numbered.abortWhere _⟩, rfl⟩
    rw [aliveLogs_cancel h.numbered, h.alive]
    rfl
  | startMetrics t =>
    refine ⟨⟨h.lifecycle, h.feed, ?_, h.numbered.spawn _⟩, rfl⟩
    show (w.agenda.tasks ++ [_]).filterMap aliveLog? = f.alive ++ [t]
    rw [List.filterMap_append, ← h.alive]
    rfl
  | apply m =>
    have taken := h.drive (.reconfigure m)
    unfold World.performFeed
    dsimp only
    split
    · exact ⟨⟨taken.1.lifecycle, taken.1.feed, taken.1.alive, taken.1.numbered⟩, taken.2⟩
    · exact taken

theorem Feeds.performFeedAll : ∀ (effects : List FeedEffect) {f : Feeding} {w : World}, Feeds f w →
    Feeds (effects.foldl (Feeding.perform [] w.surroundings) f) (effects.foldl World.performFeed w)
  | [], _, _, h => h
  | e :: rest, f, w, h => by
    obtain ⟨first, same⟩ := h.performFeed e
    have later := performFeedAll rest first
    rw [same] at later
    exact later

/-- An offer of a model in the world is an offer of the feeding, with nothing in between. -/
theorem Feeds.offer (h : Feeds f w) (m : Model) :
    Feeds (f.take (.offer m [] w.surroundings)) (w.offer m) := by
  unfold World.offer
  split
  · next none =>
    rw [h.lifecycle] at none
    cases none
  · next l there =>
    obtain rfl : f.life = l := Option.some.inj (h.lifecycle.symm.trans there)
    have offered : Feeds { f with feed := (f.feed.offer f.life.state m).1 }
        { w with feed := some (f.feed.offer f.life.state m).1 } :=
      ⟨h.lifecycle, rfl, h.alive, h.numbered⟩
    rw [h.feed]
    exact offered.performFeedAll (f.feed.offer f.life.state m).2

/-! ## The service manager -/

/-- Before the first use. -/
theorem manages_fresh : Manages (.fresh .manager) {} :=
  ⟨rfl, rfl, List.nodup_nil, List.forall_mem_nil _, List.forall_mem_nil _⟩

theorem sessionsOf_congr (members : w'.members = w.members) (o : Owner) :
    w'.sessionsOf o = w.sessionsOf o := by
  rw [sessionsOf, sessionsOf, members]

theorem members_stopSession (there : w.member? key = some m) :
    (w.stopSession key).members = w.members.map fun x =>
      if x.key == key then { x with session := m.session.stop.1 } else x := by
  unfold stopSession
  rw [there]
  exact members_performSession key m.session.stop.2 (w.setSession key m.session.stop.1)

theorem keys_stopSession (key : SessionKey) (w : World) :
    (w.stopSession key).members.map (·.key) = w.members.map (·.key) := by
  cases there : w.member? key with
  | none => rw [stopSession, there]
  | some m =>
    rw [members_stopSession there, List.map_map]
    refine List.map_congr_left fun x _ => ?_
    simp only [Function.comp]
    split <;> rfl

/-- The session of a key is stopped, and no other. -/
theorem sessionsOf_stopSession (distinct : (w.members.map (·.key)).Nodup) (key : SessionKey)
    (o : Owner) : (w.stopSession key).sessionsOf o =
      (w.sessionsOf o).map fun p => if p.1 == key then (p.1, p.2.stop.1) else p := by
  cases there : w.member? key with
  | none =>
    have absent := List.find?_eq_none.1 there
    rw [stopSession, there, sessionsOf, List.map_map]
    refine List.map_congr_left fun m hm => ?_
    simp only [Function.comp]
    rw [if_neg (absent m (List.mem_filter.1 hm).1)]
  | some m =>
    have owner : (fun x : Member => x.key.owner == o) ∘
        (fun x => if x.key == key then { x with session := m.session.stop.1 } else x) =
        fun x => x.key.owner == o := by
      funext x
      simp only [Function.comp]
      split <;> rfl
    rw [sessionsOf, members_stopSession there, List.filter_map, owner, List.map_map, sessionsOf,
      List.map_map]
    refine List.map_congr_left fun x hx => ?_
    simp only [Function.comp]
    split
    · next same =>
      -- the keys are told apart, so that this is the session that was found
      obtain rfl := List.inj_on_of_nodup_map distinct (List.mem_filter.1 hx).1
        (mem_of_member? there) ((eq_of_beq same).trans (key_of_member? there).symm)
      rfl
    · rfl

theorem members_launch (r : Running) (w : World) :
    (w.performChore (.launch r)).members = w.members ++ [{
      key := r.session, session := { service := r.config }, client := r.context.client
      counted := r.context.observed }] :=
  (((quiet_announce _ _ _).trans (quiet_sources _ _ _ _)).trans (quiet_sources _ _ _ _)).members

/-- A chore is done in the world as it is by the manager, whose next chore it is. -/
theorem Manages.performChore (h : Manages s w) {c : Chore} {left : List Chore}
    (next : s.pending = c :: left) (result : Except PublishingError Unit) :
    Manages (s.settle c result left) (w.performChore c) := by
  have services : (w.performChore c).managerOrNew = s.services := by
    unfold managerOrNew
    rw [(untouched_performChore c w).manager]
    exact h.services
  have awaited : s.awaited = Chore.launches (c :: left) := by rw [Manager.awaited, next]
  have distinct := h.distinct
  have given := h.given
  have own := h.own
  rw [awaited] at distinct given own
  cases c with
  | stop r =>
    have keys := keys_stopSession r.session w
    refine ⟨services, ?_, ?_, ?_, own⟩
    · show (w.stopSession r.session).sessionsOf s.services.owner = _
      rw [sessionsOf_stopSession (List.Nodup.of_append_left distinct), h.sessions]
      rfl
    · show ((w.stopSession r.session).members.map (·.key) ++ _).Nodup
      rw [keys]
      exact distinct
    · show ∀ key ∈ (w.stopSession r.session).members.map (·.key) ++ _, _
      rw [keys]
      exact given
  | remove r =>
    have members : (w.performChore (.remove r)).members = w.members :=
      (quiet_removeService _ _ w).members
    refine ⟨services, (sessionsOf_congr members _).trans h.sessions, ?_, ?_, own⟩
    · rw [members]
      exact distinct
    · rw [members]
      exact given
  | launch r =>
    have members := members_launch r w
    rw [Chore.launches_launch, List.map_cons] at distinct given
    have keys : (w.performChore (.launch r)).members.map (·.key) ++
        (Chore.launches left).map (·.session) =
          w.members.map (·.key) ++ (r.session :: (Chore.launches left).map (·.session)) := by
      rw [members]
      simp
    refine ⟨services, ?_, ?_, ?_, fun r' hr' => own r' (List.mem_cons_of_mem _ hr')⟩
    · show (w.performChore (.launch r)).sessionsOf s.services.owner = s.sessions ++ [_]
      rw [← h.sessions, sessionsOf, members, List.filter_append, List.map_append]
      have mine : r.session.owner = s.services.owner := own r List.mem_cons_self
      simp [mine, sessionsOf, Polling.Session.fresh]
    · exact keys ▸ distinct
    · exact keys ▸ given

theorem Manages.of_members (h : Manages s w) (members : w'.members = w.members)
    (manager : w'.manager = w.manager) : Manages s w' := by
  refine ⟨?_, (sessionsOf_congr members _).trans h.sessions, ?_, ?_, h.own⟩
  · rw [managerOrNew, manager]
    exact h.services
  · rw [members]
    exact h.distinct
  · rw [members]
    exact h.given

variable (result : Chore → Except PublishingError Unit)

/-- Chores are done in the world one after the other, as the manager does them in so many turns. -/
theorem Manages.performChores : ∀ (cs : List Chore) {left : List Chore} {s : Manager Handler} {w : World},
    Manages s w → s.pending = cs ++ left →
    (s.run (inTurn result cs)).pending = left ∧
      Manages (s.run (inTurn result cs)) (cs.foldl World.performChore w)
  | [], _, _, _, h, pending => ⟨pending, h⟩
  | c :: rest, left, s, w, h, pending => by
    have taken : s.take (.work 0 (result c) : Manager.Turn ServiceError Handler) =
        s.settle c (result c) (rest ++ left) := by
      simp [Manager.take, pending]
    rw [List.cons_append] at pending
    have later := (h.performChore pending (result c)).performChores rest rfl
    rw [← taken] at later
    exact later

/-- So it is for the effects that chores are for. -/
theorem Manages.performServices : ∀ (effects : List ServicesEffect) {s : Manager Handler} {w : World},
    Manages s w → s.pending = effects.flatMap ServicesEffect.chores →
    let done := s.run (inTurn result (effects.flatMap ServicesEffect.chores))
    done.pending = [] ∧ Manages done (effects.foldl World.performServices w)
  | [], _, _, h, pending => ⟨pending, h⟩
  | e :: rest, s, w, h, pending => by
    rw [List.flatMap_cons] at pending
    obtain ⟨left, first⟩ := h.performChores result e.chores pending
    have done : Manages (s.run (inTurn result e.chores)) (w.performServices e) := by
      cases e with
      | log e => exact first.of_members rfl rfl
      | retire | launch => exact first
    have later := done.performServices rest left
    rw [List.flatMap_cons, inTurn, List.map_append, Manager.run, List.foldl_append]
    exact later

/-- An operation of the manager begins: what it has yet to do is what it brings about. -/
theorem Manages.start (h : Manages s w) (free : s.pending = []) (op : Operation) :
    Manages (s.start op) { w with manager := some (s.services.operate op).1 } := by
  obtain ⟨-, owner, next, -, -⟩ := s.services.operate_eq op
  obtain ⟨nodup, new⟩ := s.services.session_wanted op
  have awaited : (s.start op).awaited = s.services.wanted op := by
    simp [Manager.awaited, Manager.pending_start]
  have distinct := h.distinct
  have given := h.given
  rw [Manager.awaited, free, Chore.launches_nil, List.map_nil, List.append_nil] at distinct given
  have services : (s.start op).services = (s.services.operate op).1 := rfl
  refine ⟨rfl, ?_, ?_, ?_, fun r hr => ?_⟩
  · rw [services, owner]
    exact h.sessions
  · rw [awaited]
    refine List.Nodup.append distinct nodup fun key held wanted => ?_
    obtain ⟨r, hr, rfl⟩ := List.mem_map.1 wanted
    obtain ⟨own, least, -⟩ := new r hr
    exact Nat.not_lt.2 least (given r.session held own)
  · rw [awaited, services, owner, next]
    intro key hkey own
    rcases List.mem_append.1 hkey with held | wanted
    · exact Nat.lt_add_right _ (given key held own)
    · obtain ⟨r, hr, rfl⟩ := List.mem_map.1 wanted
      exact (new r hr).2.2
  · rw [services, owner]
    rw [awaited] at hr
    exact (new r hr).1

/-- A whole operation in the world is one of the manager, which does its chores in their order. -/
theorem Manages.operate (h : Manages s w) (free : s.pending = []) (op : Operation) :
    let (services, _, effects) := s.services.operate op
    let done := s.run (.call op :: inTurn result (effects.flatMap ServicesEffect.chores))
    done.pending = [] ∧ Manages done (w.changeManager services effects) := by
  have called : s.take (.call op : Manager.Turn ServiceError Handler) = s.start op := by
    simp [Manager.take, free]
  have done := (h.start free op).performServices result (s.services.operate op).2.2 rfl
  rw [← called] at done
  exact done

end World

end TopicRelay.Simulation
