/-
The numbers of sessions. Whatever is asked of running services, each session that this brings has a
number of its own, which has not been given before.
-/
import TopicRelay.Proofs.Control.Course
import TopicRelay.Proofs.Control.Manager

namespace TopicRelay.Control

open TopicRelay.Broker TopicRelay.Config TopicRelay.Content TopicRelay.Polling

/-- The session that an effect brings. -/
def ServicesEffect.coming : ServicesEffect → Option SessionKey
  | .launch r => some r.session
  | .log _ | .retire _ => none

/-- The session that an effect brings. -/
def LifecycleEffect.coming : LifecycleEffect → Option SessionKey
  | .services e => e.coming
  | _ => none

/-- From one to the other, services give numbers to the sessions of keys. -/
structure Services.Issues (s s' : Services) (keys : List SessionKey) : Prop where
  owner : s'.owner = s.owner
  grows : s.nextNumber ≤ s'.nextNumber
  nodup : keys.Nodup
  fresh : ∀ key ∈ keys, key.owner = s.owner ∧ s.nextNumber ≤ key.number ∧ key.number < s'.nextNumber

namespace Services

variable {s s' : Services}

theorem Issues.none (owner : s'.owner = s.owner) (number : s'.nextNumber = s.nextNumber) :
    s.Issues s' [] :=
  ⟨owner, Nat.le_of_eq number.symm, List.nodup_nil, List.forall_mem_nil _⟩

/-- The services of a model are numbered on. -/
theorem issues_fresh (ctx : Context) (s : Services) (configs : List ServiceConfig) :
    s.Issues
      { s with
        running := fresh ctx s.owner s.nextNumber configs
        nextNumber := s.nextNumber + (configs.filter checkPollPeriod).length }
      ((fresh ctx s.owner s.nextNumber configs).map (·.session)) where
  owner := rfl
  grows := Nat.le_add_right ..
  nodup := nodup_session_fresh ..
  fresh := by
    intro key hkey
    obtain ⟨r, hr, rfl⟩ := List.mem_map.1 hkey
    obtain ⟨owner, least, less⟩ := number_of_mem_fresh hr
    refine ⟨owner, least, ?_⟩
    rwa [← map_config_fresh ctx s.owner s.nextNumber, List.length_map]

theorem coming_deeds (es : List ServicesEffect) :
    (ServicesEffect.deeds es).filterMap ServicesEffect.coming = es.filterMap ServicesEffect.coming := by
  unfold ServicesEffect.deeds
  rw [List.filterMap_filter]
  congr 1
  funext e
  cases e <;> rfl

@[simp]
theorem coming_retire (rs : List Running) :
    (rs.map ServicesEffect.retire).filterMap ServicesEffect.coming = [] := by
  rw [List.filterMap_map]
  exact List.filterMap_eq_nil_iff.2 fun _ _ => rfl

@[simp]
theorem coming_launch (rs : List Running) :
    (rs.map ServicesEffect.launch).filterMap ServicesEffect.coming = rs.map (·.session) := by
  rw [List.filterMap_map]
  exact congrFun List.filterMap_eq_map rs

/-- Both operations on running services number their sessions on. -/
theorem issues_operate (s : Services) (op : Operation) :
    s.Issues (s.operate op).1 ((s.operate op).2.2.filterMap ServicesEffect.coming) := by
  cases op with
  | reconfigure ctx m =>
    obtain ⟨services, -, deeds⟩ := reconfigure_eq ctx s m
    show s.Issues (s.reconfigure ctx m).1 ((s.reconfigure ctx m).2.2.filterMap _)
    rw [services, ← coming_deeds, deeds, List.filterMap_append, coming_retire, coming_launch,
      List.nil_append]
    exact issues_fresh ctx s m.services
  | close =>
    show s.Issues s.close.1 ((s.running.map ServicesEffect.retire).filterMap _)
    rw [coming_retire]
    exact .none rfl rfl

end Services

namespace Lifecycle

open LifecycleEffect

variable {env : Surroundings} {l l' : Lifecycle} {ev : LifecycleEvent} {ds : List LifecycleEffect}
  {e : Option LifecycleError}

@[simp]
theorem coming_retirements (rs : List Running) : (retirements rs).filterMap coming = [] := by
  unfold retirements
  rw [List.filterMap_map]
  exact List.filterMap_eq_nil_iff.2 fun _ _ => rfl

@[simp]
theorem coming_launches (rs : List Running) :
    (launches rs).filterMap coming = rs.map (·.session) := by
  unfold launches
  rw [List.filterMap_map]
  exact congrFun List.filterMap_eq_map rs

@[simp]
theorem coming_closings (ss : List Session) :
    (ss.map LifecycleEffect.closeSession).filterMap coming = [] := by
  rw [List.filterMap_map]
  exact List.filterMap_eq_nil_iff.2 fun _ _ => rfl

@[simp]
theorem coming_clearing (l : Lifecycle) : l.clearing.filterMap coming = [] := by
  unfold clearing
  rw [List.filterMap_append, coming_retirements]
  cases l.layer <;> rfl

theorem Serve.issues {m : Model} {rebuild : Bool} {layer : BrokerLayer}
    (serve : Serve env m rebuild l layer l' ds e) :
    l.services.Issues l'.services (ds.filterMap coming) := by
  cases serve with
  | failed =>
    rw [coming_retirements]
    exact .none rfl rfl
  | rebuilt =>
    rw [List.filterMap_cons_none rfl, List.filterMap_append, coming_retirements, coming_launches]
    exact Services.issues_fresh _ l.services m.services
  | reused =>
    rw [List.filterMap_append, coming_retirements, coming_launches]
    exact Services.issues_fresh _ l.services m.services

/-- A move numbers the sessions that it brings on from those before. -/
theorem Move.issues (mv : Move env l ev l' ds e) :
    l.services.Issues l'.services (ds.filterMap coming) := by
  cases mv with
  | ignored | kept | ended | failed | unasked | unheard | lost => exact .none rfl rfl
  | deactivated =>
    rw [List.filterMap_append, coming_clearing]
    split <;> exact .none rfl rfl
  | rested | severed =>
    rw [coming_retirements]
    exact .none rfl rfl
  | served _ _ _ _ _ _ serve | accepted _ _ _ serve => exact serve.issues
  | untrusted | closed =>
    rw [coming_clearing]
    exact .none rfl rfl
  | dialled =>
    rw [List.filterMap_append, coming_clearing]
    exact .none rfl rfl
  | discarded =>
    rw [coming_closings]
    exact .none rfl rfl

theorem issues_step (env : Surroundings) (l : Lifecycle) (ev : LifecycleEvent) :
    l.services.Issues (l.step env ev).life.services ((l.step env ev).effects.filterMap coming) := by
  have moved := (move_step env l ev).issues
  rwa [← Course.deeds_effects, filterMap_deeds (fun _ => rfl) fun _ => rfl] at moved

end Lifecycle

end TopicRelay.Control
