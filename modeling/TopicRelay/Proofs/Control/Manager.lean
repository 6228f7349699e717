/-
The service manager together with the sessions of its services. An operation, which is a
reconfiguration or a closing, begins only while no other is under way; it empties the list of running
services and leaves chores, which are done one at a time. Services are retired side by side, so that
their chores mix, but none is launched before all of that is done. Between any two chores the sessions
go on with whatever they do; only the manager stops them.
-/
import TopicRelay.Proofs.Control.Services
import TopicRelay.Proofs.Polling.Moves

namespace TopicRelay.Control

open TopicRelay.Config TopicRelay.Polling TopicRelay.Publication

/-! ## Operations -/

/-- What is asked of the service manager. -/
inductive Operation where
  | reconfigure (ctx : Context) (m : Model)
  | close

namespace Services

/-- Performs an operation: the services after it, its failures, and what it brings about. -/
def operate (s : Services) : Operation → Services × List StartFailure × List ServicesEffect
  | .reconfigure ctx m => s.reconfigure ctx m
  | .close => (s.close.1, [], s.close.2)

/-- The services that an operation leaves running. -/
def wanted (s : Services) : Operation → List Running
  | .reconfigure ctx m => fresh ctx s.owner s.nextNumber m.services
  | .close => []

/-- The services of the model that an operation does not start. -/
def unwanted : Operation → List StartFailure
  | .reconfigure _ m => refused m.services
  | .close => []

end Services

/-- The chores by which services are retired. -/
def retirement (rs : List Running) : List Chore :=
  rs.flatMap fun r => [.stop r, .remove r]

theorem chores_deeds (es : List ServicesEffect) :
    (ServicesEffect.deeds es).flatMap ServicesEffect.chores = es.flatMap ServicesEffect.chores := by
  induction es with
  | nil => rfl
  | cons e rest ih =>
    cases e with
    | log e => simpa [ServicesEffect.chores] using ih
    | retire r =>
      have : ServicesEffect.deeds (.retire r :: rest) = .retire r :: ServicesEffect.deeds rest :=
        List.filter_cons_of_pos (by simp [ServicesEffect.isLog])
      simp [this, ih]
    | launch r => simp [ih]

theorem Services.operate_eq (s : Services) (op : Operation) :
    (s.operate op).1.running = s.wanted op ∧ (s.operate op).1.owner = s.owner ∧
      (s.operate op).1.nextNumber = s.nextNumber + (s.wanted op).length ∧
      (s.operate op).2.1 = unwanted op ∧
      (s.operate op).2.2.flatMap ServicesEffect.chores =
        retirement s.running ++ (s.wanted op).map .launch := by
  cases op with
  | reconfigure ctx m =>
    obtain ⟨hservices, hfailures, hdeeds⟩ := reconfigure_eq ctx s m
    have hlength : (fresh ctx s.owner s.nextNumber m.services).length =
        (m.services.filter checkPollPeriod).length := by
      rw [← map_config_fresh ctx s.owner s.nextNumber, List.length_map]
    refine ⟨?_, ?_, ?_, hfailures, ?_⟩
    · show (s.reconfigure ctx m).1.running = _
      rw [hservices]
      rfl
    · show (s.reconfigure ctx m).1.owner = _
      rw [hservices]
    · show (s.reconfigure ctx m).1.nextNumber = s.nextNumber + (fresh ctx _ _ m.services).length
      rw [hservices, hlength]
    · show (s.reconfigure ctx m).2.2.flatMap _ = _
      rw [← chores_deeds, hdeeds, List.flatMap_append, List.flatMap_map, List.flatMap_map,
        wanted, List.map_eq_flatMap (f := Chore.launch)]
      rfl
  | close =>
    refine ⟨rfl, rfl, rfl, rfl, ?_⟩
    simp [operate, Services.close, retirement, wanted, List.flatMap_map, ServicesEffect.chores]

namespace Services

theorem number_of_mem_fresh {ctx : Context} {owner : Owner} {next : Nat}
    {configs : List ServiceConfig} {r : Running} (hr : r ∈ fresh ctx owner next configs) :
    r.session.owner = owner ∧ next ≤ r.session.number ∧
      r.session.number < next + (fresh ctx owner next configs).length := by
  unfold fresh at hr ⊢
  obtain ⟨i, hi, rfl⟩ := List.mem_mapIdx.1 hr
  rw [List.length_mapIdx]
  exact ⟨rfl, Nat.le_add_right .., Nat.add_lt_add_left hi next⟩

theorem nodup_session_fresh (ctx : Context) (owner : Owner) (next : Nat)
    (configs : List ServiceConfig) : ((fresh ctx owner next configs).map (·.session)).Nodup := by
  have hmap : (fresh ctx owner next configs).map (·.session) =
      (List.range (configs.filter checkPollPeriod).length).map fun i =>
        { owner, number := next + i } := by
    unfold fresh
    apply List.ext_getElem
    · simp
    · intro i _ _
      simp
  rw [hmap]
  refine List.Nodup.map ?_ List.nodup_range
  intro i j hij
  simpa using hij

theorem session_wanted (s : Services) (op : Operation) :
    ((s.wanted op).map (·.session)).Nodup ∧
      ∀ r ∈ s.wanted op, r.session.owner = s.owner ∧ s.nextNumber ≤ r.session.number ∧
        r.session.number < s.nextNumber + (s.wanted op).length := by
  cases op with
  | reconfigure ctx m => exact ⟨nodup_session_fresh .., fun r hr => number_of_mem_fresh hr⟩
  | close => exact ⟨List.nodup_nil, List.forall_mem_nil _⟩

end Services

/-! ## The manager -/

/-- Something that has been done to a service; its source may or may not have been removed. -/
inductive Act where
  | stopped (r : Running)
  | removed (r : Running) (result : Except PublishingError Unit)
  | launched (r : Running)
  deriving Repr

/-- What becomes of a chore once it has been done. -/
def Chore.act (result : Except PublishingError Unit) : Chore → Act
  | .stop r => .stopped r
  | .remove r => .removed r result
  | .launch r => .launched r

/-- The chore that has been done. -/
def Act.chore : Act → Chore
  | .stopped r => .stop r
  | .removed r _ => .remove r
  | .launched r => .launch r

@[simp] theorem Act.chore_act (result : Except PublishingError Unit) (c : Chore) :
    (c.act result).chore = c := by
  cases c <;> rfl

/-- Whether a chore may be done while another, which stands before it, is yet to be done: services
are retired side by side, each stopped before it is removed. -/
def Chore.mayPass : Chore → Chore → Bool
  | .stop _, .stop _ => true
  | .stop _, .remove _ => true
  | .remove _, .remove _ => true
  | .remove r, .stop x => r.session != x.session
  | _, _ => false

/-- The services that are yet to be stopped. -/
def Chore.stops (cs : List Chore) : List Running :=
  cs.filterMap fun
    | .stop r => some r
    | _ => none

/-- The services that are yet to be launched. -/
def Chore.launches (cs : List Chore) : List Running :=
  cs.filterMap fun
    | .launch r => some r
    | _ => none

namespace Chore

variable (r : Running) (rs : List Running) (cs ds : List Chore)

@[simp] theorem stops_nil : stops [] = [] := rfl
@[simp] theorem stops_stop : stops (.stop r :: cs) = r :: stops cs := rfl
@[simp] theorem stops_remove : stops (.remove r :: cs) = stops cs := rfl
@[simp] theorem stops_launch : stops (.launch r :: cs) = stops cs := rfl
@[simp] theorem launches_nil : launches [] = [] := rfl
@[simp] theorem launches_stop : launches (.stop r :: cs) = launches cs := rfl
@[simp] theorem launches_remove : launches (.remove r :: cs) = launches cs := rfl
@[simp] theorem launches_launch : launches (.launch r :: cs) = r :: launches cs := rfl

@[simp] theorem stops_append : stops (cs ++ ds) = stops cs ++ stops ds :=
  List.filterMap_append

@[simp] theorem launches_append : launches (cs ++ ds) = launches cs ++ launches ds :=
  List.filterMap_append

@[simp] theorem stops_retirement : stops (retirement rs) = rs := by
  induction rs with
  | nil => rfl
  | cons r rest ih => simpa [retirement] using ih

@[simp] theorem launches_retirement : launches (retirement rs) = [] := by
  induction rs with
  | nil => rfl
  | cons r rest ih => simpa [retirement] using ih

@[simp] theorem stops_launchings : stops (rs.map .launch) = [] := by
  induction rs with
  | nil => rfl
  | cons r rest ih => simpa using ih

@[simp] theorem launches_launchings : launches (rs.map .launch) = rs := by
  induction rs with
  | nil => rfl
  | cons r rest ih => simpa using ih

end Chore

/-- The service manager with what it has been doing, and with every session that was ever held for
one of its services. -/
structure Manager (η : Type) where
  services : Services
  /-- The list of running services. -/
  listed : List Running := []
  /-- What the operation under way has yet to do. -/
  pending : List Chore := []
  /-- What the latest operation answers. -/
  failures : List StartFailure := []
  sessions : List (SessionKey × Session η) := []
  /-- What has been done, in order. -/
  acts : List Act := []

namespace Manager

variable {η ε : Type}

/-- What can happen next. -/
inductive Turn (ε η : Type) where
  | call (op : Operation)
  /-- One of the chores is done, if its time has come; a removal has some result. -/
  | work (n : Nat) (result : Except PublishingError Unit)
  /-- A session makes a move of its own. -/
  | move (key : SessionKey) (mv : Move ε η)

/-- Whether a turn is the call of an operation. -/
def Turn.isCall : Turn ε η → Bool
  | .call _ => true
  | _ => false

/-- A manager to which nothing has happened. -/
def fresh (owner : Owner) : Manager η :=
  { services := { owner } }

/-- Begins an operation. -/
def start (op : Operation) (s : Manager η) : Manager η :=
  let (services, failures, effects) := s.services.operate op
  { s with services, failures, listed := [], pending := effects.flatMap ServicesEffect.chores }

/-- Changes the session of a key. -/
def mapSession (key : SessionKey) (f : Session η → Session η) (s : Manager η) : Manager η :=
  { s with sessions := s.sessions.map fun p => if p.1 == key then (p.1, f p.2) else p }

/-- Does a chore. -/
def perform (s : Manager η) : Chore → Manager η
  | .stop r => s.mapSession r.session fun x => x.stop.1
  | .remove _ => s
  | .launch r =>
    { s with
      listed := s.listed ++ [r]
      sessions := s.sessions ++ [(r.session, Session.fresh r.config)] }

/-- Does a chore and leaves some others. -/
def settle (c : Chore) (result : Except PublishingError Unit) (left : List Chore) (s : Manager η) :
    Manager η :=
  { s.perform c with pending := left, acts := s.acts ++ [c.act result] }

@[simp] theorem services_settle (c : Chore) (result : Except PublishingError Unit) (left : List Chore)
    (s : Manager η) : (s.settle c result left).services = s.services := by
  cases c <;> rfl

@[simp] theorem failures_settle (c : Chore) (result : Except PublishingError Unit) (left : List Chore)
    (s : Manager η) : (s.settle c result left).failures = s.failures := by
  cases c <;> rfl

@[simp] theorem pending_settle (c : Chore) (result : Except PublishingError Unit) (left : List Chore)
    (s : Manager η) : (s.settle c result left).pending = left := rfl

@[simp] theorem acts_settle (c : Chore) (result : Except PublishingError Unit) (left : List Chore)
    (s : Manager η) : (s.settle c result left).acts = s.acts ++ [c.act result] := by
  cases c <;> rfl

/-- Takes a turn. An operation waits for the one under way, and a chore for those that it may not
pass; sessions do not stop themselves. -/
def take (s : Manager η) : Turn ε η → Manager η
  | .call op => if s.pending.isEmpty then s.start op else s
  | .work n result =>
    match s.pending[n]? with
    | none => s
    | some c =>
      if (s.pending.take n).all c.mayPass then s.settle c result (s.pending.eraseIdx n) else s
  | .move _ .stop => s
  | .move key mv => s.mapSession key fun x => (x.take mv).1

/-- Takes turns one after the other. -/
def run (s : Manager η) (turns : List (Turn ε η)) : Manager η :=
  turns.foldl take s

/-! ## What a turn comes to -/

/-- What a turn comes to that calls no operation. -/
inductive Step (s : Manager η) : Manager η → Prop
  | idle : Step s s
  | worked {left right : List Chore} {c : Chore} (result : Except PublishingError Unit)
      (split : s.pending = left ++ c :: right) (ready : ∀ b ∈ left, c.mayPass b = true) :
      Step s (s.settle c result (left ++ right))
  | moved (key : SessionKey) {f : Session η → Session η}
      (keeps : ∀ x, (f x).stopped = x.stopped ∧ (f x).service = x.service) :
      Step s (s.mapSession key f)

theorem step_work (n : Nat) (result : Except PublishingError Unit) (s : Manager η) :
    s.Step (s.take (.work n result : Turn ε η)) := by
  simp only [take]
  split
  · exact .idle
  · next c hc =>
    split
    · next ready =>
      obtain ⟨hn, rfl⟩ := List.getElem?_eq_some_iff.1 hc
      rw [List.eraseIdx_eq_take_drop_succ]
      refine .worked result ?_ ?_
      · rw [List.getElem_cons_drop, List.take_append_drop]
      · simpa using ready
    · exact .idle

/-- No move of its own stops a session or makes it poll another service. -/
theorem take_keeps {mv : Move ε η} (h : mv ≠ .stop) (x : Session η) :
    (x.take mv).1.stopped = x.stopped ∧ (x.take mv).1.service = x.service := by
  cases mv with
  | stop => exact absurd rfl h
  | start | add | prepare | send | receive | conclude | drop =>
    simp only [Session.take, Session.start, Session.scheduleAll, Session.add, Session.prepare,
      Session.send, Session.answer, Session.receive, Session.conclude, Session.dropCycle]
    repeat' split
    all_goals exact ⟨rfl, rfl⟩

theorem step_take {turn : Turn ε η} (h : turn.isCall = false) (s : Manager η) :
    s.Step (s.take turn) := by
  cases turn with
  | call op => cases h
  | work n result => exact step_work n result s
  | move key mv =>
    cases mv with
    | stop => exact .idle
    | start | add | prepare | send | receive | conclude | drop =>
      exact .moved key (take_keeps (by simp))

/-! ## Sessions -/

/-- The keys of the sessions that were ever held. -/
def keys (s : Manager η) : List SessionKey :=
  s.sessions.map (·.1)

/-- The services whose sessions live: those listed, and those that are yet to be stopped. -/
def living (s : Manager η) : List Running :=
  s.listed ++ Chore.stops s.pending

/-- The services for which sessions are yet to be held. -/
def awaited (s : Manager η) : List Running :=
  Chore.launches s.pending

/-- The invariant of the sessions of a manager. -/
structure Tended (s : Manager η) : Prop where
  running : s.services.running = s.listed ++ s.awaited
  distinct : (s.keys ++ s.awaited.map (·.session)).Nodup
  numbered : ∀ k ∈ s.keys ++ s.awaited.map (·.session),
    k.owner = s.services.owner ∧ k.number < s.services.nextNumber
  live : ∀ p ∈ s.sessions, p.2.stopped = false ↔ p.1 ∈ s.living.map (·.session)
  held : ∀ r ∈ s.living, ∃ x, (r.session, x) ∈ s.sessions ∧ x.service = r.config
  once : (s.living.map (·.session)).Nodup
  launched : ∀ r ∈ s.living, .launched r ∈ s.acts

theorem Tended.known {s : Manager η} (h : s.Tended) {r : Running} (hr : r ∈ s.living) :
    r.session ∈ s.keys := by
  obtain ⟨x, hx, -⟩ := h.held r hr
  exact List.mem_map.2 ⟨_, hx, rfl⟩

/-- Between operations the services that run are those listed, and so are those that live. -/
theorem Tended.at_rest {s : Manager η} (h : s.Tended) (rest : s.pending = []) :
    s.services.running = s.listed ∧ s.living = s.listed := by
  have hrunning := h.running
  simp only [awaited, rest, Chore.launches_nil, List.append_nil] at hrunning
  simp [hrunning, living, rest]

theorem fresh_tended (owner : Owner) : (fresh owner : Manager η).Tended := by
  constructor <;> simp [fresh, keys, awaited, living]

theorem pending_start (op : Operation) (s : Manager η) :
    (s.start op).pending = retirement s.services.running ++ (s.services.wanted op).map .launch :=
  (s.services.operate_eq op).2.2.2.2

theorem Tended.start {s : Manager η} (h : s.Tended) (free : s.pending = []) (op : Operation) :
    (s.start op).Tended := by
  obtain ⟨hrunning, howner, hnext, -, -⟩ := s.services.operate_eq op
  obtain ⟨hnodup, hnew⟩ := s.services.session_wanted op
  obtain ⟨hlisted, -⟩ := h.at_rest free
  have hkeys : (s.start op).keys = s.keys := rfl
  have hawaited : (s.start op).awaited = s.services.wanted op := by
    simp [awaited, pending_start]
  have hliving : (s.start op).living = s.living := by
    simp only [living, pending_start, hlisted, free, Chore.stops_append, Chore.stops_retirement,
      Chore.stops_launchings, Chore.stops_nil, List.append_nil]
    rfl
  have hnumbered : ∀ k ∈ s.keys, k.owner = s.services.owner ∧ k.number < s.services.nextNumber :=
    fun k hk => h.numbered k (List.mem_append_left _ hk)
  refine ⟨?_, ?_, ?_, ?_, ?_, ?_, ?_⟩
  · rw [hawaited]
    exact hrunning
  · rw [hkeys, hawaited]
    refine List.Nodup.append (List.Nodup.of_append_left h.distinct) hnodup ?_
    intro k hk hwanted
    obtain ⟨r, hr, rfl⟩ := List.mem_map.1 hwanted
    have := (hnumbered _ hk).2
    have := (hnew r hr).2.1
    omega
  · rw [hkeys, hawaited]
    intro k hk
    show k.owner = (s.services.operate op).1.owner ∧ k.number < (s.services.operate op).1.nextNumber
    rw [howner, hnext]
    rcases List.mem_append.1 hk with hk | hk
    · exact ⟨(hnumbered k hk).1, Nat.lt_add_right _ (hnumbered k hk).2⟩
    · obtain ⟨r, hr, rfl⟩ := List.mem_map.1 hk
      exact ⟨(hnew r hr).1, (hnew r hr).2.2⟩
  · rw [hliving]
    exact h.live
  · rw [hliving]
    exact h.held
  · rw [hliving]
    exact h.once
  · rw [hliving]
    exact h.launched

theorem keys_mapSession (key : SessionKey) (f : Session η → Session η) (s : Manager η) :
    (s.mapSession key f).keys = s.keys := by
  unfold keys mapSession
  rw [List.map_map]
  refine List.map_congr_left fun p _ => ?_
  simp only [Function.comp]
  split <;> rfl

theorem held_mapSession {s : Manager η} {r : Running} (key : SessionKey) {f : Session η → Session η}
    (keeps : ∀ x, (f x).service = x.service)
    (h : ∃ x, (r.session, x) ∈ s.sessions ∧ x.service = r.config) :
    ∃ x, (r.session, x) ∈ (s.mapSession key f).sessions ∧ x.service = r.config := by
  obtain ⟨x, hx, hservice⟩ := h
  have hmem := List.mem_map_of_mem (f := fun p => if p.1 == key then (p.1, f p.2) else p) hx
  dsimp only at hmem
  split at hmem
  · exact ⟨f x, hmem, (keeps x).trans hservice⟩
  · exact ⟨x, hmem, hservice⟩

theorem Tended.moved {s : Manager η} (h : s.Tended) (key : SessionKey) {f : Session η → Session η}
    (keeps : ∀ x, (f x).stopped = x.stopped ∧ (f x).service = x.service) :
    (s.mapSession key f).Tended where
  running := h.running
  distinct := by
    rw [keys_mapSession]
    exact h.distinct
  numbered := by
    rw [keys_mapSession]
    exact h.numbered
  live := by
    intro p hp
    obtain ⟨q, hq, rfl⟩ := List.mem_map.1 hp
    have hq := h.live q hq
    split
    · rw [(keeps q.2).1]
      exact hq
    · exact hq
  held := fun r hr => held_mapSession key (fun x => (keeps x).2) (h.held r hr)
  once := h.once
  launched := h.launched

/-- A session is stopped when its turn comes, and only then. -/
theorem Tended.stopped {s : Manager η} (h : s.Tended) {left right : List Chore} {r : Running}
    (result : Except PublishingError Unit) (split : s.pending = left ++ .stop r :: right) :
    (s.settle (.stop r) result (left ++ right)).Tended := by
  have hkeys : (s.settle (.stop r) result (left ++ right)).keys = s.keys :=
    keys_mapSession r.session (fun x => x.stop.1) s
  have hawaited : (s.settle (.stop r) result (left ++ right)).awaited = s.awaited := by
    simp [awaited, split, settle]
  have hliving : s.living.Perm (r :: (s.settle (.stop r) result (left ++ right)).living) := by
    simp only [living, split, settle, perform, mapSession, Chore.stops_append, Chore.stops_stop,
      ← List.append_assoc]
    exact List.perm_middle
  -- no other living service shares the session that is stopped
  have honce := (hliving.map (·.session)).nodup_iff.1 h.once
  rw [List.map_cons, List.nodup_cons] at honce
  refine ⟨?_, ?_, ?_, ?_, ?_, honce.2, ?_⟩
  · rw [hawaited]
    exact h.running
  · rw [hkeys, hawaited]
    exact h.distinct
  · rw [hkeys, hawaited]
    exact h.numbered
  · intro p hp
    obtain ⟨q, hq, rfl⟩ := List.mem_map.1 hp
    have hlive := h.live q hq
    rw [(hliving.map (·.session)).mem_iff, List.map_cons, List.mem_cons] at hlive
    split
    · next hkey =>
      have hkey : q.1 = r.session := by simpa using hkey
      rw [hkey]
      simpa [Session.stop] using honce.1
    · next hkey =>
      have hne : q.1 ≠ r.session := by simpa using hkey
      rw [hlive]
      simp [hne]
  · intro x hx
    exact held_mapSession r.session (f := fun x => x.stop.1) (fun _ => rfl)
      (h.held x (hliving.mem_iff.2 (List.mem_cons_of_mem r hx)))
  · intro x hx
    exact List.mem_append_left _ (h.launched x (hliving.mem_iff.2 (List.mem_cons_of_mem r hx)))

theorem Tended.removed {s : Manager η} (h : s.Tended) {left right : List Chore} {r : Running}
    (result : Except PublishingError Unit) (split : s.pending = left ++ .remove r :: right) :
    (s.settle (.remove r) result (left ++ right)).Tended := by
  have hawaited : (s.settle (.remove r) result (left ++ right)).awaited = s.awaited := by
    simp [awaited, split, settle]
  have hliving : (s.settle (.remove r) result (left ++ right)).living = s.living := by
    simp [living, split, settle, perform]
  refine ⟨?_, ?_, ?_, ?_, ?_, ?_, ?_⟩
  · rw [hawaited]
    exact h.running
  · rw [hawaited]
    exact h.distinct
  · rw [hawaited]
    exact h.numbered
  · rw [hliving]
    exact h.live
  · rw [hliving]
    exact h.held
  · rw [hliving]
    exact h.once
  · rw [hliving]
    exact fun x hx => List.mem_append_left _ (h.launched x hx)

/-- A session is held for the first of the services that are yet to be launched. -/
theorem Tended.begun {s : Manager η} (h : s.Tended) {right : List Chore} {r : Running}
    (result : Except PublishingError Unit) (split : s.pending = .launch r :: right) :
    (s.settle (.launch r) result right).Tended := by
  have hkeys : (s.settle (.launch r) result right).keys = s.keys ++ [r.session] := by
    simp [keys, settle, perform]
  have hawaited : s.awaited = r :: (s.settle (.launch r) result right).awaited := by
    simp [awaited, split, settle]
  have hliving : (s.settle (.launch r) result right).living.Perm (r :: s.living) := by
    simp only [living, split, settle, perform, Chore.stops_launch, List.append_assoc,
      List.singleton_append]
    exact List.perm_middle
  have hdistinct := h.distinct
  have hnumbered := h.numbered
  rw [hawaited, List.map_cons, List.append_cons, ← hkeys] at hdistinct hnumbered
  -- keys are numbered anew for each launch, so no session is held twice
  have hnew : r.session ∉ s.keys := by
    have := List.Nodup.of_append_left hdistinct
    rw [hkeys, List.nodup_append] at this
    exact fun hr => this.2.2 _ hr _ (List.mem_singleton_self _) rfl
  refine ⟨?_, hdistinct, hnumbered, ?_, ?_, ?_, ?_⟩
  · show s.services.running = (s.listed ++ [r]) ++ _
    rw [h.running, hawaited, List.append_cons]
  · intro p hp
    rw [(hliving.map (·.session)).mem_iff, List.map_cons, List.mem_cons]
    rcases List.mem_append.1 hp with hp | hp
    · have hne : p.1 ≠ r.session := fun he => hnew (he ▸ List.mem_map_of_mem hp)
      simpa [hne] using h.live p hp
    · obtain rfl := List.mem_singleton.1 hp
      simp [Session.fresh]
  · intro x hx
    rcases List.mem_cons.1 (hliving.mem_iff.1 hx) with rfl | hx
    · exact ⟨Session.fresh x.config, List.mem_append_right _ (List.mem_singleton_self _), rfl⟩
    · obtain ⟨y, hy, hservice⟩ := h.held x hx
      exact ⟨y, List.mem_append_left _ hy, hservice⟩
  · refine (hliving.map (·.session)).nodup_iff.2 ?_
    rw [List.map_cons, List.nodup_cons]
    refine ⟨?_, h.once⟩
    intro hmem
    obtain ⟨x, hx, he⟩ := List.mem_map.1 hmem
    exact hnew (he ▸ h.known hx)
  · intro x hx
    show Act.launched x ∈ s.acts ++ [.launched r]
    rcases List.mem_cons.1 (hliving.mem_iff.1 hx) with rfl | hx
    · exact List.mem_append_right _ (List.mem_singleton_self _)
    · exact List.mem_append_left _ (h.launched x hx)

theorem eq_nil_of_launch_ready {left : List Chore} {r : Running}
    (ready : ∀ b ∈ left, (Chore.launch r).mayPass b = true) : left = [] := by
  cases left with
  | nil => rfl
  | cons b rest => cases ready b (List.mem_cons_self ..)

theorem Tended.worked {s : Manager η} (h : s.Tended) {left right : List Chore} {c : Chore}
    (result : Except PublishingError Unit) (split : s.pending = left ++ c :: right)
    (ready : ∀ b ∈ left, c.mayPass b = true) : (s.settle c result (left ++ right)).Tended := by
  cases c with
  | stop r => exact h.stopped result split
  | remove r => exact h.removed result split
  | launch r =>
    obtain rfl := eq_nil_of_launch_ready ready
    exact h.begun result split

theorem Step.tended {s s' : Manager η} (step : s.Step s') (h : s.Tended) : s'.Tended := by
  cases step with
  | idle => exact h
  | worked result split ready => exact h.worked result split ready
  | moved key keeps => exact h.moved key keeps

theorem take_tended {s : Manager η} (h : s.Tended) (turn : Turn ε η) : (s.take turn).Tended := by
  cases hcall : turn.isCall with
  | false => exact (step_take hcall s).tended h
  | true =>
    cases turn with
    | call op =>
      simp only [take]
      split
      · next free => exact h.start (by simpa using free) op
      · exact h
    | work n result => cases hcall
    | move key mv => cases hcall

theorem run_tended {s : Manager η} (h : s.Tended) (turns : List (Turn ε η)) :
    (s.run turns).Tended := by
  unfold run
  induction turns generalizing s with
  | nil => exact h
  | cons turn rest ih => exact ih (take_tended h turn)

end Manager

end TopicRelay.Control
