/-
The adapter around an endpoint that is polled. Models come, broker sessions are opened and lost, services
begin and end, and other tasks have their turns. All of it leaves the world fine, and so does the time
that passes up to the next timer.
-/
import TopicRelay.Proofs.Control.Numbering
import TopicRelay.Proofs.Simulation.Undisturbed

namespace TopicRelay.Simulation

open TopicRelay.Broker TopicRelay.Config TopicRelay.Content TopicRelay.Control
open TopicRelay.Polling TopicRelay.Publication TopicRelay.Time

variable {focus : Option Focus} {pending : List SessionKey} {running : Option Nat} {x : Scope}
  {w w' : World} {f : Focus} {key : SessionKey} {m : Member} {t : Time.Task Work} {p : Pause}

/-! ## New sessions -/

/-- Keys are given to sessions that are to come. -/
theorem Fine.expect (h : Fine ⟨focus, [], running⟩ w) {keys : List SessionKey} (now : w'.now = w.now)
    (members : w'.members = w.members) (history : w'.history = w.history)
    (agenda : w'.agenda = w.agenda) (manages : w'.managerOrNew.owner = .manager)
    (governs : ∀ l ∈ w'.lifecycle, l.services.owner = .lifecycle)
    (counted : ∀ key, w.Counted key → w'.Counted key) (nodup : keys.Nodup)
    (fresh : ∀ key ∈ keys, w'.Counted key ∧ ¬ w.Counted key) : Fine ⟨focus, keys, running⟩ w' := by
  have known := h.sane.counted
  have distinct := h.sane.keys
  rw [List.append_nil] at known distinct
  have member (key : SessionKey) : w'.member? key = w.member? key := by
    unfold World.member?
    rw [members]
  constructor
  · refine ⟨?_, ?_, members ▸ h.sane.orderly, manages, governs, agenda ▸ h.sane.numbered,
      agenda ▸ h.sane.running⟩
    · -- what is given now has not been given to any session that is held
      rw [members]
      refine List.nodup_append.2 ⟨distinct, nodup, fun old hold key hkey same => ?_⟩
      exact (fresh key hkey).2 (same ▸ known old hold)
    · rw [members]
      intro key hkey
      rcases List.mem_append.1 hkey with hkey | hkey
      · exact counted key (known key hkey)
      · exact (fresh key hkey).1
  · intro f hf
    have polls : f.polls w' = f.polls w := by
      unfold Focus.polls
      rw [history]
    cases h.follows f hf with
    | latent idle clock seen unpolled =>
      exact .latent idle (now.trans clock) (polls.trans seen) fun m hm => unpolled m (member _ ▸ hm)
    | kept keeps =>
      exact .kept { keeps with
        member := (member _).trans keeps.member
        clock := now ▸ keeps.clock
        plays := by rw [polls]; exact keeps.plays
        stands := by rw [agenda, now]; exact keeps.stands }
    | ended gone =>
      exact .ended ⟨counted _ gone.counted, fun hkey => (fresh _ hkey).2 gone.counted,
        fun m hm => gone.ended m (member _ ▸ hm)⟩

theorem member?_addMember (new : Member) (w : World) (key : SessionKey) :
    (w.addMember new).member? key = (w.member? key).or (if new.key = key then some new else none) := by
  unfold World.member? World.addMember
  rw [List.find?_append]
  by_cases own : new.key = key <;> simp [own]

/-- A session that was to come is held. It polls nothing yet. -/
theorem Fine.hold (h : Fine ⟨focus, m.key :: pending, running⟩ w) (orderly : m.session.Orderly)
    (idle : m.session.cycles = []) : Fine ⟨focus, pending, running⟩ (w.addMember m) := by
  have keys : (w.addMember m).members.map (·.key) ++ pending =
      w.members.map (·.key) ++ (m.key :: pending) := by
    simp [World.addMember]
  constructor
  · refine ⟨keys ▸ h.sane.keys, keys ▸ h.sane.counted, fun m' hm' => ?_, h.sane.manages,
      h.sane.governs, h.sane.numbered, h.sane.running⟩
    rcases List.mem_append.1 hm' with hm' | hm'
    · exact h.sane.orderly m' hm'
    · rwa [List.mem_singleton.1 hm']
  · intro f hf
    have found := member?_addMember m w f.key
    cases h.follows f hf with
    | latent still clock seen unpolled =>
      refine .latent still clock seen fun m' hm' => ?_
      rw [found, Option.or_eq_some_iff] at hm'
      rcases hm' with hm' | ⟨-, hm'⟩
      · exact unpolled m' hm'
      · split at hm'
        · cases hm'
          rw [idle]
          exact List.forall_mem_nil _
        · cases hm'
    | kept keeps =>
      exact .kept { keeps with member := by rw [found, keeps.member, Option.some_or] }
    | ended gone =>
      have other : m.key ≠ f.key := fun own => gone.absent (own ▸ List.mem_cons_self)
      refine .ended ⟨gone.counted, fun hkey => gone.absent (List.mem_cons_of_mem _ hkey), fun m' hm' => ?_⟩
      rw [found, if_neg other, Option.or_none] at hm'
      exact gone.ended m' hm'

/-! ## Services -/

theorem Fine.launch (r : Running) (h : Fine ⟨focus, r.session :: pending, running⟩ w) :
    Fine ⟨focus, pending, running⟩ (w.performChore (.launch r)) := by
  have held := Fine.hold (m := {
    key := r.session, session := { service := r.config }, client := r.context.client
    counted := r.context.observed }) h (Polling.Session.fresh_orderly r.config) rfl
  exact ((held.quiet (quiet_announce _ _ _)).quiet (quiet_sources _ _ _ _)).quiet
    (quiet_sources _ _ _ _)

theorem Fine.performServices (e : ServicesEffect)
    (h : Fine ⟨focus, e.coming.toList ++ pending, running⟩ w) :
    Fine ⟨focus, pending, running⟩ (w.performServices e) := by
  cases e with
  | log e => exact h.quiet (quiet_say e w)
  | retire r =>
    exact ((h.stopSession r.session).quiet (quiet_removeService _ _ _)).quiet (quiet_say _ _)
  | launch r => exact h.launch r

theorem Fine.performServicesAll : ∀ (effects : List ServicesEffect) {w : World},
    Fine ⟨focus, effects.filterMap ServicesEffect.coming, running⟩ w →
    Fine ⟨focus, [], running⟩ (effects.foldl World.performServices w)
  | [], _, h => h
  | e :: rest, _, h => by
    refine performServicesAll rest (Fine.performServices e ?_)
    rwa [List.filterMap_eq_flatMap_toList, List.flatMap_cons, ← List.filterMap_eq_flatMap_toList] at h

theorem Fine.performLifecycle (e : LifecycleEffect)
    (h : Fine ⟨focus, e.coming.toList ++ pending, running⟩ w) :
    Fine ⟨focus, pending, running⟩ (w.performLifecycle e) := by
  cases e with
  | log e => exact h.quiet (quiet_say e w)
  | services e => exact h.performServices e
  | httpBuilt l =>
    exact h.quiet ((quiet_record fun _ _ => rfl).trans
      ⟨⟨rfl, rfl, rfl, rfl, rfl, [], rfl⟩, fun _ _ => rfl⟩)
  | openSession => exact h.quiet (quiet_spawn _ w)
  | closeSession s => exact h.quiet (quiet_closeBroker s w)
  | shutdown =>
    exact h.quiet ((quiet_record fun _ _ => rfl).trans
      ⟨⟨rfl, rfl, rfl, rfl, rfl, [], rfl⟩, fun _ _ => rfl⟩)

theorem Fine.performLifecycleAll : ∀ (effects : List LifecycleEffect) {w : World},
    Fine ⟨focus, effects.filterMap LifecycleEffect.coming, running⟩ w →
    Fine ⟨focus, [], running⟩ (effects.foldl World.performLifecycle w)
  | [], _, h => h
  | e :: rest, _, h => by
    refine performLifecycleAll rest (Fine.performLifecycle e ?_)
    rwa [List.filterMap_eq_flatMap_toList, List.flatMap_cons, ← List.filterMap_eq_flatMap_toList] at h

/-- An event of the lifecycle, whatever it brings about. -/
theorem Fine.drive (h : Fine ⟨focus, [], running⟩ w) (ev : LifecycleEvent) :
    Fine ⟨focus, [], running⟩ (w.drive ev).1 := by
  unfold World.drive
  split
  · exact h
  · next l there =>
    have issues := l.issues_step w.surroundings ev
    have owner := h.sane.governs l there
    generalize l.step w.surroundings ev = course at issues ⊢
    refine Fine.performLifecycleAll course.effects
      (h.expect rfl rfl rfl rfl h.sane.manages ?_ ?_ issues.nodup ?_)
    · rintro _ ⟨⟩
      exact issues.owner.trans owner
    · rintro ⟨_ | _ | _, number⟩ given
      · rintro _ ⟨⟩
        exact Nat.lt_of_lt_of_le (given l there) issues.grows
      · exact given
      · exact given
    · rintro ⟨_, number⟩ hkey
      obtain ⟨same, least, less⟩ := issues.fresh _ hkey
      obtain rfl := same.trans owner
      refine ⟨?_, fun given => ?_⟩
      · rintro _ ⟨⟩
        exact less
      · exact Nat.not_lt.2 least (given l there)

/-- An operation of the manager. -/
theorem Fine.operate (h : Fine ⟨focus, [], running⟩ w) (op : Operation) :
    Fine ⟨focus, [], running⟩
      (w.changeManager (w.managerOrNew.operate op).1 (w.managerOrNew.operate op).2.2) := by
  have issues := w.managerOrNew.issues_operate op
  have owner := h.sane.manages
  generalize w.managerOrNew.operate op = out at issues ⊢
  refine Fine.performServicesAll out.2.2
    (h.expect rfl rfl rfl rfl (issues.owner.trans owner) h.sane.governs ?_ issues.nodup ?_)
  · rintro ⟨_ | _ | _, number⟩ given
    · exact given
    · exact Nat.lt_of_lt_of_le given issues.grows
    · exact given
  · rintro ⟨_, number⟩ hkey
    obtain ⟨same, least, less⟩ := issues.fresh _ hkey
    obtain rfl := same.trans owner
    exact ⟨less, fun given => Nat.not_lt.2 least given⟩

theorem Fine.newSession (h : Fine ⟨focus, [], running⟩ w) (name : String) (s : ServiceConfig)
    (stopOn : Option Trigger) : Fine ⟨focus, [], running⟩ (World.newSession name s stopOn w).1 := by
  unfold World.newSession
  split
  · have expected : Fine ⟨focus, [⟨.named, w.namedCount⟩], running⟩
        { w with
          named := (name, ⟨.named, w.namedCount⟩) :: w.named.filter fun p => p.1 != name
          namedCount := w.namedCount + 1 } := by
      refine h.expect rfl rfl rfl rfl h.sane.manages h.sane.governs ?_ (List.nodup_singleton _) ?_
      · rintro ⟨_ | _ | _, number⟩ given
        · exact given
        · exact given
        · exact Nat.lt_succ_of_lt given
      · intro key hkey
        obtain rfl := List.mem_singleton.1 hkey
        exact ⟨Nat.lt_succ_self _, Nat.lt_irrefl w.namedCount⟩
    exact expected.hold (m := {
      key := ⟨.named, w.namedCount⟩, session := { service := s }, client := .standIn, counted := true
      stopOn }) (Polling.Session.fresh_orderly s) rfl
  · exact h

/-! ## Broker sessions -/

theorem Fine.finishOpening (h : Fine ⟨focus, [], running⟩ w) (generation : Nat)
    (result : Except ConnectionError Broker.Session) :
    Fine ⟨focus, [], running⟩ (w.finishOpening generation result) := by
  unfold World.finishOpening
  split
  · exact h.drive _
  · exact h.quiet (quiet_closeBroker _ w)
  · exact h

theorem Fine.answerOpening (h : Fine ⟨focus, [], running⟩ w) (o : Opening) (attempt : Nat) :
    Fine ⟨focus, [], running⟩ (w.answerOpening o attempt) := by
  unfold World.answerOpening
  split
  · exact h.finishOpening _ _
  · exact (h.quiet ((Quiet.refl w).withBroker _)).finishOpening _ _

theorem Fine.openLogOnly (h : Fine ⟨focus, [], running⟩ w) (o : Opening) :
    Fine ⟨focus, [], running⟩ (w.openLogOnly o) := by
  have begun : Quiet w { w with logClients := w.logClients ++ [Registry.empty] } :=
    ⟨⟨rfl, rfl, rfl, rfl, rfl, [], rfl⟩, fun _ _ => rfl⟩
  exact (h.quiet (begun.say _)).finishOpening _ _

theorem Fine.turnOpening (h : Fine ⟨focus, [], running⟩ w) (id : Nat) (o : Opening) :
    Fine ⟨focus, [], running⟩ (w.turnOpening id o).1 := by
  unfold World.turnOpening
  split
  · exact h.answerOpening o _
  · exact h
  · -- the attempt is told of, and then depends on the broker
    have told : Quiet w { w.record (.opening
        { generation := o.generation, host := o.broker.host, port := o.broker.port.toNat
          certificates := o.trust.map (·.certificates.length) }) with
        attempts := w.attempts ++ [o.generation] } :=
      (quiet_record fun _ _ => rfl).trans ⟨⟨rfl, rfl, rfl, rfl, rfl, [], rfl⟩, fun _ _ => rfl⟩
    have begun := h.quiet told
    dsimp only
    split
    · exact begun.openLogOnly o
    · split
      · exact begun.quiet ((Quiet.refl _).withBroker _)
      · split
        · exact (begun.quiet ((Quiet.refl _).withBroker _)).answerOpening o _
        · exact (begun.quiet ((Quiet.refl _).withBroker _)).answerOpening o _

/-- A task that is held back goes on. The task of a cycle never is. -/
theorem Fine.releaseTask (h : Fine x w) (id : Nat) : Fine x (w.releaseTask id) := by
  unfold World.releaseTask
  refine h.withAgenda ((h.sane.numbered.mapTask ?_ id).wake id) ?_
    fun f _ m c t p keeps => (keeps.stands.mapTask fun _ => ?_).wake id
  · exact fun _ => rfl
  · rw [Agenda.nextId_wake]
    exact Nat.le_refl _
  · obtain ⟨id, work, aborted⟩ := t
    obtain rfl : work = _ := keeps.work
    rfl

theorem Fine.releaseOne (h : Fine x w) : Fine x w.releaseOne := by
  unfold World.releaseOne
  split
  · exact h.quiet ((Quiet.refl w).withBroker _)
  · exact (h.quiet ((Quiet.refl w).withBroker _)).releaseTask _

/-! ## The model feed -/

theorem Fine.cancelMetrics (h : Fine x w) (task : MetricsTask) :
    Fine x (w.performFeed (.cancelMetrics task)) := by
  refine h.abortWhere fun f _ m c t p keeps => ?_
  rw [keeps.work]
  rfl

theorem Fine.performFeed (h : Fine ⟨focus, [], running⟩ w) (e : FeedEffect) :
    Fine ⟨focus, [], running⟩ (w.performFeed e) := by
  cases e with
  | cancelMetrics task => exact h.cancelMetrics task
  | startMetrics task => exact h.quiet (quiet_spawn _ w)
  | apply m =>
    have driven := h.drive (.reconfigure m)
    unfold World.performFeed
    dsimp only
    split
    · exact driven.quiet (quiet_say _ _)
    · exact driven

theorem Fine.performFeedAll : ∀ (effects : List FeedEffect) {w : World},
    Fine ⟨focus, [], running⟩ w → Fine ⟨focus, [], running⟩ (effects.foldl World.performFeed w)
  | [], _, h => h
  | e :: rest, _, h => performFeedAll rest (h.performFeed e)

theorem Fine.offer (h : Fine ⟨focus, [], running⟩ w) (m : Model) :
    Fine ⟨focus, [], running⟩ (w.offer m) := by
  unfold World.offer
  split
  · exact h
  · refine Fine.performFeedAll _ (h.quiet ?_)
    exact ⟨⟨rfl, rfl, rfl, rfl, rfl, [], rfl⟩, fun _ _ => rfl⟩

theorem Fine.cancelAll : ∀ (tasks : List MetricsTask) {w : World}, Fine x w →
    Fine x (tasks.foldl (fun w task => w.performFeed (.cancelMetrics task)) w)
  | [], _, h => h
  | task :: rest, _, h => cancelAll rest (h.cancelMetrics task)

/-- Without a lifecycle no more sessions are numbered by one. -/
theorem Fine.dropLifecycle (h : Fine ⟨focus, [], running⟩ w) :
    Fine ⟨focus, [], running⟩ w.dropLifecycle := by
  refine Fine.cancelAll _ (h.expect rfl rfl rfl rfl h.sane.manages ?_ ?_ List.nodup_nil
    (List.forall_mem_nil _))
  · rintro _ ⟨⟩
  · rintro ⟨_ | _ | _, number⟩ given
    · rintro _ ⟨⟩
    · exact given
    · exact given

/-! ## Sessions that nobody holds -/

/-- Whether a session is kept. -/
def World.retains (w : World) (m : Member) : Bool :=
  w.heldSessions.contains m.key || World.hasRequest m

/-- Sessions are let go with their cycles. -/
theorem letGo_eq (w : World) : ∃ ends : Member → Work → Bool,
    (∀ m key epoch, ends m (.cycle key epoch) = (key == m.key)) ∧
      w.letGo = { w with
        members := w.members.filter w.retains
        agenda := (w.members.filter fun m => !w.retains m).foldl
          (fun a m => a.abortWhere (ends m)) w.agenda } := by
  -- the test is the one that stands in the definition
  refine ⟨?ends, ?own, ?comes⟩
  case comes =>
    simp only [World.letGo, List.partition_eq_filter_filter]
    rfl
  case own => exact fun _ _ _ => rfl

/-- The tasks of others are spared when work is aborted. -/
theorem foldl_abortWhere (ends : Member → Work → Bool) : ∀ (gone : List Member) (a : Agenda Work),
    a.Numbered →
    let b := gone.foldl (fun a m => a.abortWhere (ends m)) a
    b.Numbered ∧ b.nextId = a.nextId ∧
      ∀ (t : Time.Task Work) (now due : Nat), (∀ m ∈ gone, ends m t.work = false) →
        a.Stands t now due → b.Stands t now due
  | [], _, numbered => ⟨numbered, rfl, fun _ _ _ _ stands => stands⟩
  | m :: rest, a, numbered => by
    obtain ⟨ordered, next, spared⟩ := foldl_abortWhere ends rest _ (numbered.abortWhere (ends m))
    refine ⟨ordered, next.trans (Agenda.nextId_abortWhere a _), fun t now due others stands => ?_⟩
    exact spared t now due (fun m' hm' => others m' (List.mem_cons_of_mem _ hm'))
      (stands.abortWhere numbered (others m List.mem_cons_self))

theorem Fine.letGo (h : Fine ⟨focus, [], running⟩ w) : Fine ⟨focus, [], running⟩ w.letGo := by
  obtain ⟨ends, own, comes⟩ := letGo_eq w
  obtain ⟨ordered, next, spared⟩ :=
    foldl_abortWhere ends (w.members.filter fun m => !w.retains m) w.agenda h.sane.numbered
  have member {key : SessionKey} {m : Member} (there : w.letGo.member? key = some m) :
      w.member? key = some m := by
    have hm := mem_of_member? there
    rw [comes] at hm
    rw [← World.key_of_member? there]
    exact h.sane.member?_of_mem (List.mem_filter.1 hm).1
  have sane : Sane ⟨focus, [], running⟩ w.letGo := by
    rw [comes]
    have sublist := ((List.filter_sublist (l := w.members) (p := w.retains)).map (·.key)).append_right []
    exact ⟨h.sane.keys.sublist sublist, fun key hkey => h.sane.counted key (sublist.subset hkey),
      fun m hm => h.sane.orderly m (List.mem_filter.1 hm).1, h.sane.manages, h.sane.governs, ordered,
      next ▸ h.sane.running⟩
  refine ⟨sane, fun f hf => ?_⟩
  have counted : w.Counted f.key → w.letGo.Counted f.key := by
    rw [comes]
    exact id
  cases h.follows f hf with
  | latent idle clock seen unpolled =>
    refine .latent idle ?_ ?_ fun m hm => unpolled m (member hm)
    · rw [comes]
      exact clock
    · rw [comes]
      exact seen
  | @kept m c t p keeps =>
    have hm := mem_of_member? keeps.member
    by_cases held : w.retains m = true
    · -- the session stays, and the tasks that end are those of other sessions
      have others : ∀ m' ∈ w.members.filter fun m => !w.retains m, ends m' t.work = false := by
        intro m' hm'
        obtain ⟨hm', free⟩ := List.mem_filter.1 hm'
        rw [keeps.work, own]
        refine beq_false_of_ne fun same => ?_
        have := h.sane.member?_of_mem hm'
        rw [← same, keeps.member] at this
        cases this
        simp [held] at free
      have found : w.letGo.member? f.key = some m := by
        rw [← World.key_of_member? keeps.member]
        refine sane.member?_of_mem ?_
        rw [comes]
        exact List.mem_filter.2 ⟨hm, held⟩
      have stands := spared t w.now p.due others keeps.stands
      rw [comes] at found ⊢
      exact .kept { keeps with member := found, stands := stands }
    · -- the session is not there any more, and no other takes its key
      refine .ended (h.sane.gone keeps.member _ counted fun m' hm' => ?_)
      have there := member hm'
      rw [keeps.member] at there
      cases there
      have hm' := mem_of_member? hm'
      rw [comes] at hm'
      exact absurd (List.mem_filter.1 hm').2 held
  | ended gone => exact .ended ⟨counted gone.counted, gone.absent, fun m hm => gone.ended m (member hm)⟩

/-! ## Turns -/

/-- A task has its turn, which is not that of the endpoint that is followed. -/
theorem Fine.pop (h : Fine ⟨focus, pending, none⟩ w) {a : Agenda Work}
    (popped : w.agenda.pop? = some (t, a))
    (others : t.aborted = true ∨ ∀ f ∈ focus, ¬ f.Own t.work w) :
    Fine ⟨focus, pending, some t.id⟩ { w with agenda := a } := by
  obtain ⟨ht, rest, first, rfl⟩ := Agenda.pop?_eq_some popped
  refine ⟨{ h.sane with
    numbered := h.sane.numbered.of_ids rfl rfl
    running := ?_ }, fun f hf => ?_⟩
  · rintro _ ⟨⟩
    exact h.sane.numbered.below t ht
  · cases h.follows f hf with
    | latent idle clock seen unpolled => exact .latent idle clock seen unpolled
    | @kept m c t' p keeps =>
      -- the task of the cycle is neither aborted nor does it do other work
      have other : t'.id ≠ t.id := by
        intro same
        obtain rfl := h.sane.numbered.eq_of_id keeps.stands.there ht same
        rcases others with aborted | others
        · exact Bool.false_ne_true (keeps.active.symm.trans aborted)
        · exact others f hf keeps.own
      exact .kept { keeps with
        apart := by simpa using other.symm
        stands := keeps.stands.pop first (fun own => absurd own other) _ }
    | ended gone => exact .ended ⟨gone.counted, gone.absent, gone.ended⟩

theorem Fine.endTurn {id : Nat} (h : Fine ⟨focus, pending, some id⟩ w) : Fine ⟨focus, pending, none⟩ w := by
  refine ⟨{ h.sane with running := nofun }, fun f hf => ?_⟩
  cases h.follows f hf with
  | latent idle clock seen unpolled => exact .latent idle clock seen unpolled
  | kept keeps => exact .kept { keeps with apart := nofun }
  | ended gone => exact .ended ⟨gone.counted, gone.absent, gone.ended⟩

theorem Fine.turn (h : Fine ⟨focus, [], running⟩ w) (id : Nat) (work : Work)
    (others : ∀ f ∈ focus, ¬ f.Own work w) : Fine ⟨focus, [], running⟩ (w.turn id work).1 := by
  cases work with
  | cycle key epoch => exact h.turnCycle others
  | metrics task due =>
    cases due with
    | none => exact h
    | some due =>
      unfold World.turn
      dsimp only
      split
      · exact h.quiet (quiet_say _ w)
      · exact h
  | pass p =>
    have turned := h.turnPass p
    unfold World.turn
    dsimp only
    split <;> exact turned
  | opening o =>
    have turned := h.turnOpening id o
    unfold World.turn
    dsimp only
    split <;> exact turned
  | notification generation n => exact h.drive _

/-- The task whose turn it was ends. -/
theorem Fine.dropTask {id : Nat} (h : Fine ⟨focus, pending, some id⟩ w) (work : Work) :
    Fine ⟨focus, pending, some id⟩ (w.dropTask id work) := by
  have finished {w : World} (h : Fine ⟨focus, pending, some id⟩ w) :
      Fine ⟨focus, pending, some id⟩ { w with agenda := w.agenda.finish id } := by
    refine h.withAgenda (h.sane.numbered.finish id) (Nat.le_refl _) fun f _ m c t p keeps => ?_
    exact keeps.stands.finish fun own => keeps.apart (congrArg some own.symm)
  cases work with
  | cycle key epoch => exact finished (h.dropCycle key epoch)
  | metrics | pass | opening | notification => exact finished h

theorem Fine.pause (h : Fine x w) : Fine x { w with agenda := { w.agenda with current := none } } :=
  h.withAgenda (h.sane.numbered.of_ids rfl rfl) (Nat.le_refl _)
    fun _ _ _ _ _ _ keeps => ⟨keeps.stands.there, keeps.stands.called⟩

/-- The task whose turn it was waits. -/
theorem Fine.suspend {id : Nat} (h : Fine ⟨focus, pending, some id⟩ w) (work : Work) (dues : List Nat) :
    Fine ⟨focus, pending, some id⟩ (w.suspend id work dues) := by
  have waits : Fine ⟨focus, pending, some id⟩
      { w with agenda := dues.foldl (fun a due => a.sleep id due) (w.agenda.setWork id work) } := by
    refine h.withAgenda ?_ ?_ fun f _ m c t p keeps => ?_
    · rw [Agenda.foldl_sleep]
      exact (h.sane.numbered.setWork id work).of_ids rfl rfl
    · rw [Agenda.foldl_sleep]
      exact Nat.le_refl _
    · refine Agenda.Stands.sleepAll id dues (keeps.stands.mapTask fun own => ?_)
      exact absurd (congrArg some own.symm) keeps.apart
  unfold World.suspend
  dsimp only
  split
  · exact waits.pause.dropTask work
  · exact waits.pause

/-- The next task has its turn, which is not that of the endpoint that is followed. -/
theorem Fine.runNext (h : Fine ⟨focus, [], none⟩ w)
    (others : ∀ t a, w.agenda.pop? = some (t, a) → t.aborted = false → ∀ f ∈ focus, ¬ f.Own t.work w) :
    Fine ⟨focus, [], none⟩ w.runNext := by
  unfold World.runNext
  split
  · next nobody =>
    exact h.withAgenda (h.sane.numbered.of_ids rfl rfl) (Nat.le_refl _)
      fun _ _ _ _ _ _ keeps => keeps.stands.skip nobody
  · next t a popped =>
    split
    · next aborted => exact ((h.pop popped (.inl aborted)).pause.dropTask t.work).endTurn.letGo
    · next active =>
      have foreign := others t a popped (Bool.eq_false_iff.2 active)
      have turned := (h.pop popped (.inr foreign)).turn t.id t.work foreign
      dsimp only
      split
      · exact (turned.suspend _ _).endTurn.letGo
      · exact (turned.pause.dropTask t.work).endTurn.letGo

/-! ## Time -/

/-- Time goes on, up to the next timer. -/
theorem Fine.wakeAt (h : Fine x w) {later : Nat} (begun : ∀ f ∈ x.focus, f.begun = true)
    (onward : w.now ≤ later) (idle : w.agenda.queue = []) (early : ∀ τ ∈ w.agenda.timers, later ≤ τ.due) :
    Fine x (w.wakeAt later) := by
  refine ⟨{ h.sane with
    numbered := h.sane.numbered.fire later
    running := fun id hid => Nat.lt_of_lt_of_eq (h.sane.running id hid)
      (Agenda.nextId_fire w.agenda later).symm }, fun f hf => ?_⟩
  cases h.follows f hf with
  | latent still clock seen unpolled =>
    rw [begun f hf] at still
    cases still
  | @kept m c t p keeps =>
    -- nothing can run, so that the task of the cycle waits for its timer
    have reaches : later ≤ p.due := by
      rcases keeps.stands.called with timer | ⟨-, queued⟩
      · exact early _ timer
      · rw [idle] at queued
        cases queued
    exact .kept { keeps with clock := reaches, stands := keeps.stands.fire onward reaches }
  | ended gone => exact .ended ⟨gone.counted, gone.absent, gone.ended⟩

/-! ## Commands -/

/-- Whether a command is taken at once. -/
def Command.isInstant : Command → Bool
  | .advance _ | .waitState _ _ | .waitPublished _ _ _ => false
  | _ => true

theorem Fine.withNamed (h : Fine x w) (name : String) {f : SessionKey → World → World × Reply}
    (keeps : ∀ key, Fine x (f key w).1) : Fine x (w.withNamed name f).1 := by
  unfold World.withNamed
  split
  · exact h
  · exact keeps _

theorem Fine.command (h : Fine ⟨focus, [], running⟩ w) (c : Command) (instant : c.isInstant = true) :
    Fine ⟨focus, [], running⟩ (w.command c).1 := by
  have same {w' : World} (quiet : Quiet w w') : Fine ⟨focus, [], running⟩ w' := h.quiet quiet
  cases c with
  | advance | waitState | waitPublished => cases instant
  | script | failHttp | writeFile | removeFile =>
    exact same ⟨⟨rfl, rfl, rfl, rfl, rfl, [], rfl⟩, fun _ _ => rfl⟩
  | topicOutcome | holdOpens | failOpens => exact same ((Quiet.refl w).withBroker _)
  | releaseOpen => exact h.releaseOne
  | notify listener n =>
    unfold World.command World.tellListener
    dsimp only
    split
    · exact h
    · exact same (quiet_spawn _ w)
  | source service a =>
    unfold World.command World.actOnService
    dsimp only
    split
    · exact h
    · exact same (quiet_sources _ _ _ w)
  | addService s => exact same (quiet_sources _ _ _ w)
  | removeService s => exact same (quiet_removeService .standIn s w)
  | publish s e kind v =>
    unfold World.command World.publishOnce
    dsimp only
    split
    · exact h
    · exact same (quiet_publish _ _ _ v w)
  | newSession name s stopOn => exact h.newSession name s stopOn
  | startSession name => exact h.withNamed name fun key => h.startSession key
  | addEndpoint name e => exact h.withNamed name fun key => h.addEndpoint key e
  | stopSession name => exact h.withNamed name fun key => h.stopSession key
  | initialise name s e => exact h.withNamed name fun key => same (quiet_spawn _ w)
  | reconfigureServices m => exact h.operate (.reconfigure World.managerContext m)
  | closeServices => exact h.operate .close
  | reconfigure m => exact h.drive _
  | close => exact h.drive _
  | dropLifecycle => exact h.dropLifecycle
  | offer m => exact h.offer m

end TopicRelay.Simulation
