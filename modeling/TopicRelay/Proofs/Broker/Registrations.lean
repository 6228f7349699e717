/-
Registrations with the log-only broker. A client is asked to add and to remove services and to close,
and its sources are called from outside at any time, where the hooks of the sources may call any source
but not the client. `Serves` says what one request comes to and `Course` what a sequence of them does;
`Settles` is the invariant, with the closings that are still to be done, so that a request is settled
in two steps: what it changes in the books, and what its calls do.
-/
import TopicRelay.Broker.LogOnly
import TopicRelay.Proofs.Publication.Errands

namespace TopicRelay.Broker.LogOnly

open TopicRelay.Config TopicRelay.Content TopicRelay.Publication TopicRelay.Publication.Registry

variable {η : Type}

/-! ## Requests -/

/-- What is asked of a client, or of a source that it has handed out. -/
inductive Request (η : Type) where
  | add (s : ServiceConfig)
  | remove (s : ServiceConfig)
  | close
  | call (n : Nat) (c : Call η)

/-- The closing of a source. -/
def closing (n : Nat) : Errand η :=
  .call n (.act .close)

/-- What a request comes to: the hooks that run, the answer, and the registry that it leaves. -/
inductive Serves (r : Registry η) :
    Request η → List (Run η) → Except PublishingError Unit → Registry η → Prop
  /-- The source that is replaced is closed before the new one is registered. -/
  | added {s : ServiceConfig} {past : List (Run η)} {r' : Registry η}
      (through : Through
        { handed := r.handed ++ [{ topicPath := s.topicPathRoot }]
          kept := keep s.name r.handed.length r.kept }
        ((r.number? s.name).toList.map closing ++
          [.call r.handed.length (.act .register), .call r.handed.length (.act .activate)])
        past r') :
      Serves r (.add s) past (.ok ()) r'
  | removed {s : ServiceConfig} {n : Nat} {past : List (Run η)} {r' : Registry η}
      (stored : r.number? s.name = some n)
      (through : Through { r with kept := r.kept.filter fun p => p.1 != s.name } [closing n] past r') :
      Serves r (.remove s) past (.ok ()) r'
  | missing {s : ServiceConfig} (none : r.number? s.name = none) :
      Serves r (.remove s) [] (.error (.serviceNotActive s.name)) r
  /-- The sources are closed in any order. -/
  | closed {numbers : List Nat} {past : List (Run η)} {r' : Registry η}
      (order : numbers.Perm (r.kept.map fun p => p.2))
      (through : Through { r with kept := [] } (numbers.map closing) past r') :
      Serves r .close past (.ok ()) r'
  | called {n : Nat} {c : Call η} {past : List (Run η)} {r' : Registry η}
      (through : Through r [.call n c] past r') :
      Serves r (.call n c) past (((r.call n c).2.2.map .error).getD (.ok ())) r'

/-- What a sequence of requests comes to. -/
inductive Course : Registry η → List (Request η) → List (Run η) → Registry η → Prop
  | ended {r : Registry η} : Course r [] [] r
  | next {r r₁ r' : Registry η} {q : Request η} {rest : List (Request η)} {past later : List (Run η)}
      {answer : Except PublishingError Unit}
      (first : Serves r q past answer r₁) (further : Course r₁ rest later r') :
      Course r (q :: rest) (past ++ later) r'

/-- The service that a request adds. -/
def Request.service? : Request η → Option ServiceConfig
  | .add s => some s
  | .remove _ | .close | .call _ _ => none

/-- The services that are added, the one of the source of a number at that number. -/
def added (requests : List (Request η)) : List ServiceConfig :=
  requests.filterMap Request.service?

/-! ## The books -/

section Books

variable {r : Registry η} {name : String} {n : Nat}

theorem lookup_filter (service name : String) (kept : List (String × Nat)) :
    (kept.filter fun p => p.1 != service).lookup name =
      if name = service then none else kept.lookup name := by
  induction kept with
  | nil => simp
  | cons p kept ih =>
    obtain ⟨k, m⟩ := p
    by_cases hk : k = service
    · subst hk
      rw [List.filter_cons_of_neg (by simp), ih]
      split
      next => rfl
      next other => simp [List.lookup_cons, beq_eq_false_iff_ne.2 other]
    · rw [List.filter_cons_of_pos (by simp [hk])]
      by_cases hname : name = k
      · subst hname
        simp [hk]
      · simp [List.lookup_cons, beq_eq_false_iff_ne.2 hname, ih]

theorem lookup_keep (service name : String) (n : Nat) (kept : List (String × Nat)) :
    (keep service n kept).lookup name = if name = service then some n else kept.lookup name := by
  by_cases hname : name = service
  · subst hname
    simp [keep]
  · simp [keep, List.lookup_cons, beq_eq_false_iff_ne.2 hname, lookup_filter, hname]

theorem remove_of_missing (missing : r.number? name = none) :
    r.remove name = (r, [], .error (.serviceNotActive name)) := by
  simp only [remove, missing]

theorem remove_of_stored (stored : r.number? name = some n) :
    r.remove name =
      let forgotten : Registry η := { r with kept := r.kept.filter fun p => p.1 != name }
      ((forgotten.perform n [.close]).1, (forgotten.perform n [.close]).2, .ok ()) := by
  simp only [remove, stored]

theorem remove_eq_ok_iff : (r.remove name).2.2 = .ok () ↔ ∃ n, r.number? name = some n := by
  rcases stored : r.number? name with _ | n
  · simp [remove_of_missing stored]
  · simp [remove_of_stored stored]

theorem mem_kept (stored : r.number? name = some n) : n ∈ r.kept.map fun p => p.2 := by
  obtain ⟨before, later, hkept, -⟩ := List.lookup_eq_some_iff.1 stored
  exact List.mem_map.2 ⟨(name, n), by simp [hkept], rfl⟩

end Books

/-! ## The invariant -/

section Invariant

variable [DecidableEq η] {services : List ServiceConfig} {past later : List (Run η)}
  {items : List (Errand η)} {r r' : Registry η}

/-- Sources handed out for services, in order, with some errands to be done: a source is the one stored
under the name of its service, or it is closed, or it is to be closed. The hooks that wait for the end of
a source have run if it is closed, once for each time they are attached, and not at all otherwise. -/
structure Settles (services : List ServiceConfig) (past : List (Run η)) (items : List (Errand η))
    (r : Registry η) : Prop where
  size : r.handed.length = services.length
  source : ∀ {n s service}, r.source? n = some s → services[n]? = some service →
    s.topicPath = service.topicPathRoot ∧
      (r.number? service.name = some n ∨ s.state = .closed ∨ closing n ∈ items)
  stored : ∀ {name n}, r.number? name = some n →
    ∃ service, services[n]? = some service ∧ service.name = name
  account : ∀ n h, past.count ⟨n, .closed, h⟩ = r.closings n h

theorem settles_empty : Settles [] [] [] (.empty : Registry η) := by
  constructor
  · rfl
  · intro n s service there
    simp [source?, Registry.empty] at there
  · intro name n stored
    simp [number?, Registry.empty] at stored
  · intro n h
    simp [closings, source?, Registry.empty]

/-- Once the calls are through, nothing is to be closed any more. -/
theorem Settles.through (settles : Settles services past items r) (through : Through r items later r')
    (calls : ∀ x, .hook x ∉ items) : Settles services (past ++ later) [] r' := by
  have carries := through.carries
  have numbers : ∀ name, r'.number? name = r.number? name := fun name => by
    rw [number?, carries.kept, number?]
  refine ⟨carries.size.trans settles.size, fun {n s service} there service_n => ?_, ?_, ?_⟩
  · obtain ⟨s₀, before, path, closed⟩ := carries.source_before there
    obtain ⟨path₀, standing⟩ := settles.source before service_n
    refine ⟨path.trans path₀, ?_⟩
    rcases standing with stored | closed₀ | listed
    · exact Or.inl ((numbers _).trans stored)
    · exact Or.inr (Or.inl (closed closed₀))
    · exact Or.inr (Or.inl (through.shut listed s there))
  · intro name n stored
    exact settles.stored ((numbers name).symm.trans stored)
  · intro n h
    have counted := through.count_closings n h
    have none : items.count (.hook ⟨n, .closed, h⟩) = 0 := List.count_eq_zero.2 (calls _)
    rw [List.count_append, settles.account]
    omega

/-- A stored name leads to a source. -/
theorem Settles.source_of_stored (settles : Settles services past items r) {name : String} {n : Nat}
    (stored : r.number? name = some n) : ∃ s, r.source? n = some s := by
  obtain ⟨service, there, -⟩ := settles.stored stored
  have below : n < r.handed.length := by
    rw [settles.size]
    exact (List.getElem?_eq_some_iff.1 there).1
  exact ⟨_, List.getElem?_eq_getElem below⟩

/-! ## What requests change in the books -/

/-- Sources may be dropped from the books if they are to be closed. -/
theorem Settles.drop (settles : Settles services past [] r) {kept : List (String × Nat)}
    (dropped : ∀ name n, r.number? name = some n →
      kept.lookup name = some n ∨ closing n ∈ items)
    (fewer : ∀ name n, kept.lookup name = some n → r.number? name = some n) :
    Settles services past items { r with kept } := by
  refine ⟨settles.size, fun there service_n => ?_, ?_, settles.account⟩
  · obtain ⟨path, standing⟩ := settles.source there service_n
    refine ⟨path, ?_⟩
    rcases standing with stored | closed | listed
    · exact (dropped _ _ stored).imp_right Or.inr
    · exact Or.inr (Or.inl closed)
    · cases listed
  · intro name n stored
    exact settles.stored (fewer name n stored)

theorem closings_hand (r : Registry η) (path : String) (kept : List (String × Nat)) (n : Nat) (h : η) :
    Registry.closings { handed := r.handed ++ [{ topicPath := path }], kept } n h = r.closings n h := by
  unfold closings source?
  rcases Nat.lt_trichotomy n r.handed.length with below | rfl | above
  · rw [List.getElem?_append_left below]
  · simp [endings]
  · rw [List.getElem?_eq_none (by simp; omega), List.getElem?_eq_none (by omega)]

/-- A source may be handed out and stored if the one that it replaces is to be closed. -/
theorem Settles.hand (settles : Settles services past [] r) (s : ServiceConfig)
    (replaced : ∀ n, r.number? s.name = some n → closing n ∈ items) :
    Settles (services ++ [s]) past items
      { handed := r.handed ++ [{ topicPath := s.topicPathRoot }]
        kept := keep s.name r.handed.length r.kept } := by
  have numbers : ∀ name, (keep s.name r.handed.length r.kept).lookup name =
      if name = s.name then some r.handed.length else r.number? name :=
    fun name => lookup_keep s.name name _ _
  refine ⟨by simp [settles.size], fun {n x service} there service_n => ?_, fun {name n} stored => ?_,
    fun n h => ?_⟩
  · unfold number?
    rw [numbers]
    by_cases below : n < r.handed.length
    · -- a source from before, whose service may be the one that is added
      rw [List.getElem?_append_left (settles.size ▸ below)] at service_n
      rw [source?, List.getElem?_append_left below] at there
      obtain ⟨path, standing⟩ := settles.source there service_n
      refine ⟨path, ?_⟩
      rcases standing with stored | closed | listed
      · by_cases same : service.name = s.name
        · exact Or.inr (Or.inr (replaced n (same ▸ stored)))
        · exact Or.inl ((if_neg same).trans stored)
      · exact Or.inr (Or.inl closed)
      · cases listed
    · obtain rfl : n = r.handed.length := by
        have := (List.getElem?_eq_some_iff.1 there).1
        simp only [List.length_append, List.length_singleton] at this
        omega
      obtain rfl : s = service := by simpa [settles.size] using service_n
      obtain rfl : x = { topicPath := s.topicPathRoot } := by
        simpa [source?, eq_comm] using there
      exact ⟨rfl, Or.inl (if_pos rfl)⟩
  · unfold number? at stored
    rw [numbers] at stored
    split at stored
    next same =>
      cases stored
      exact ⟨s, by simp [settles.size], same.symm⟩
    next =>
      obtain ⟨service, there, named⟩ := settles.stored stored
      refine ⟨service, ?_, named⟩
      rw [List.getElem?_append_left (List.getElem?_eq_some_iff.1 there).1]
      exact there
  · rw [closings_hand]
    exact settles.account n h

/-! ## Whole requests -/

theorem Settles.serves {q : Request η} {answer : Except PublishingError Unit}
    (settles : Settles services past [] r) (serves : Serves r q later answer r') :
    Settles (services ++ q.service?.toList) (past ++ later) [] r' := by
  cases serves with
  | @added s _ _ through =>
    refine (settles.hand s fun n replaced => ?_).through through (by simp [closing])
    simp [replaced]
  | @removed s n _ _ stored through =>
    rw [Request.service?, Option.toList_none, List.append_nil]
    refine (settles.drop (fun name m there => ?_) fun name m there => ?_).through through
      (by simp [closing])
    · rw [lookup_filter]
      split
      next same =>
        subst same
        obtain rfl : n = m := Option.some.inj (stored.symm.trans there)
        exact Or.inr List.mem_cons_self
      next => exact Or.inl there
    · rw [lookup_filter] at there
      split at there
      next => cases there
      next => exact there
  | missing => simpa [Request.service?] using settles
  | @closed numbers _ _ order through =>
    rw [Request.service?, Option.toList_none, List.append_nil]
    refine (settles.drop (fun name n stored => Or.inr ?_) fun name n there => ?_).through through
      (by simp [closing])
    · exact List.mem_map_of_mem (order.mem_iff.2 (mem_kept stored))
    · cases there
  | called through =>
    rw [Request.service?, Option.toList_none, List.append_nil]
    refine Settles.through ⟨settles.size, fun there service_n => ?_, settles.stored, settles.account⟩
      through (by simp)
    obtain ⟨path, standing⟩ := settles.source there service_n
    exact ⟨path, standing.imp_right (Or.imp_right fun listed => nomatch listed)⟩

theorem Settles.course {requests : List (Request η)} (settles : Settles services past [] r)
    (course : Course r requests later r') :
    Settles (services ++ added requests) (past ++ later) [] r' := by
  induction course generalizing services past with
  | ended => simpa [added] using settles
  | @next _ _ _ q rest _ _ _ first _ ih =>
    have brought : added (q :: rest) = q.service?.toList ++ added rest := by
      cases q <;> rfl
    rw [brought, ← List.append_assoc, ← List.append_assoc]
    exact ih (settles.serves first)

end Invariant

/-! ## Hooks that call nothing -/

/-- What the operations of the client and of its sources do where hooks call nothing. -/
def Request.apply (r : Registry η) :
    Request η → Registry η × List (Notice η) × Except PublishingError Unit
  | .add s => ((r.add policy s).1, (r.add policy s).2.2, .ok ())
  | .remove s => r.remove s.name
  | .close => (r.closeAll.1, r.closeAll.2, .ok ())
  | .call n c =>
    ((r.call n c).1, (r.call n c).2.1, ((r.call n c).2.2.map .error).getD (.ok ()))

theorem through_closeEach : ∀ (numbers : List Nat) (r : Registry η), ∃ past,
    Through r (numbers.map closing) past (r.closeEach numbers).1 ∧
      Notice.hooks (r.closeEach numbers).2 = past.map (·.hook)
  | [], _ => ⟨[], .done, rfl⟩
  | n :: rest, r => by
    obtain ⟨past, through, told⟩ := through_perform n [.close] r
    obtain ⟨later, further, more⟩ := through_closeEach rest (r.perform n [.close]).1
    refine ⟨past ++ later, through.append further, ?_⟩
    rw [List.map_append, ← told, ← more]
    exact Notice.hooks_append _ _

theorem through_add (r : Registry η) (s : ServiceConfig) : ∃ past,
    Through
      { handed := r.handed ++ [{ topicPath := s.topicPathRoot }]
        kept := keep s.name r.handed.length r.kept }
      ((r.number? s.name).toList.map closing ++
        [.call r.handed.length (.act .register), .call r.handed.length (.act .activate)])
      past (r.add policy s).1 ∧
      Notice.hooks (r.add policy s).2.2 = past.map (·.hook) := by
  unfold add
  dsimp only [policy]
  rcases r.number? s.name with _ | m
  · exact through_perform r.handed.length [.register, .activate] _
  · obtain ⟨past, through, told⟩ := through_perform m [.close]
      { handed := r.handed ++ [{ topicPath := s.topicPathRoot }]
        kept := keep s.name r.handed.length r.kept }
    obtain ⟨later, further, more⟩ := through_perform r.handed.length [.register, .activate] _
    refine ⟨past ++ later, through.append further, ?_⟩
    rw [List.map_append, ← told, ← more]
    exact Notice.hooks_append _ _

theorem serves_apply (r : Registry η) (q : Request η) : ∃ past,
    Serves r q past (q.apply r).2.2 (q.apply r).1 ∧
      Notice.hooks (q.apply r).2.1 = past.map (·.hook) := by
  cases q with
  | add s =>
    obtain ⟨past, through, told⟩ := through_add r s
    exact ⟨past, .added through, told⟩
  | remove s =>
    rcases stored : r.number? s.name with _ | n
    · rw [Request.apply, remove_of_missing stored]
      exact ⟨[], .missing stored, rfl⟩
    · rw [Request.apply, remove_of_stored stored]
      obtain ⟨past, through, told⟩ := through_perform n [.close]
        { r with kept := r.kept.filter fun p => p.1 != s.name }
      exact ⟨past, .removed stored through, told⟩
  | close =>
    obtain ⟨past, through, told⟩ := through_closeEach (r.kept.reverse.map fun p => p.2)
      { r with kept := [] }
    exact ⟨past, .closed ((List.reverse_perm _).map _) through, told⟩
  | call n c =>
    refine ⟨r.caused n c, ?_, hooks_call r n c⟩
    have through : Through r [.call n c] (r.caused n c ++ []) (r.call n c).1 :=
      .call (through_hooks _ _) .done
    rw [List.append_nil] at through
    exact .called through

/-! ## Registrations -/

theorem isRegistered_iff (r : Registry η) (service : String) :
    r.isRegistered service = true ↔ ∃ s, r.sourceOf? service = some s ∧ s.state ≠ .closed := by
  unfold isRegistered
  rcases r.sourceOf? service with _ | s <;> simp

theorem sourceOf?_eq_some_iff {r : Registry η} {service : String} {s : Source η} :
    r.sourceOf? service = some s ↔ ∃ n, r.number? service = some n ∧ r.source? n = some s := by
  simp [sourceOf?, Option.bind_eq_some_iff]

theorem Serves.remove_eq_ok_iff {r r' : Registry η} {s : ServiceConfig} {past : List (Run η)}
    {answer : Except PublishingError Unit} (serves : Serves r (.remove s) past answer r') :
    answer = .ok () ↔ ∃ n, r.number? s.name = some n := by
  cases serves with
  | removed stored => simp [stored]
  | missing none => simp [none]

/-- Nothing is stored any more once the client has closed. -/
theorem Serves.kept_of_close {r r' : Registry η} {past : List (Run η)}
    {answer : Except PublishingError Unit} (serves : Serves r .close past answer r') :
    r'.kept = [] := by
  cases serves with
  | closed _ through => exact through.carries.kept

/-- The books agree with the states of the sources, whatever is asked of the client and of its sources,
in whatever order, and whatever sources the hooks call. After each course of requests to a new client:
* as many sources are handed out as services were added, each with the path of its service, and a source
  that is not the one stored under the name of its service is closed;
* of the hooks that wait for the end of a source, each has run once for each time it is attached if the
  source is closed, and none has run otherwise;
* a target is given, and a task performed, exactly if a source is stored under the name of the service
  and is not closed, and a task is said to have been performed exactly if it was;
* removing a service succeeds exactly if a source is stored under its name;
* once the client is closed, every source that was ever handed out is closed, and none is stored;
* what the operations themselves do, where hooks call nothing, is among what requests come to. -/
theorem registrations_follow_sources [DecidableEq η] {requests : List (Request η)}
    {past : List (Run η)} {r : Registry η} (course : Course .empty requests past r) :
    r.handed.length = (added requests).length ∧
    (∀ n s service, r.source? n = some s → (added requests)[n]? = some service →
      s.topicPath = service.topicPathRoot ∧
        (r.number? service.name ≠ some n → s.state = .closed)) ∧
    (∀ n s h, r.source? n = some s →
      past.count ⟨n, .closed, h⟩ = if s.state = .closed then s.onClose.count h else 0) ∧
    (∀ (s : ServiceConfig) (e : EndpointConfig) (kind : PayloadKind),
      ((∃ x, r.sourceOf? s.name = some x ∧ x.state ≠ .closed) →
        bind r s e kind = .ok (.of s e kind) ∧
          ∀ (α : Type) (task : α → α) (a : α), whileRegistered r s task a = (task a, true)) ∧
      ((¬ ∃ x, r.sourceOf? s.name = some x ∧ x.state ≠ .closed) →
        bind r s e kind = .error (.serviceNotActive s.name) ∧
          ∀ (α : Type) (task : α → α) (a : α), whileRegistered r s task a = (a, false))) ∧
    (∀ s : ServiceConfig,
      ((r.remove s.name).2.2 = .ok () ↔ ∃ x, r.sourceOf? s.name = some x) ∧
      ∀ later answer r', Serves r (.remove s) later answer r' →
        (answer = .ok () ↔ ∃ x, r.sourceOf? s.name = some x)) ∧
    (∀ later answer r', Serves r .close later answer r' →
      r'.kept = [] ∧ ∀ n s, r'.source? n = some s → s.state = .closed) ∧
    ∀ q : Request η, ∃ later, Serves r q later (q.apply r).2.2 (q.apply r).1 ∧
      Notice.hooks (q.apply r).2.1 = later.map (·.hook) := by
  have settles : Settles (added requests) past [] r := by
    simpa using settles_empty.course course
  have stored : ∀ name, (∃ n, r.number? name = some n) ↔ ∃ x, r.sourceOf? name = some x := by
    intro name
    constructor
    · rintro ⟨n, number⟩
      obtain ⟨x, there⟩ := settles.source_of_stored number
      exact ⟨x, sourceOf?_eq_some_iff.2 ⟨n, number, there⟩⟩
    · rintro ⟨x, there⟩
      obtain ⟨n, number, -⟩ := sourceOf?_eq_some_iff.1 there
      exact ⟨n, number⟩
  refine ⟨settles.size, ?_, ?_, ?_, ?_, ?_, serves_apply r⟩
  · intro n s service there service_n
    obtain ⟨path, standing⟩ := settles.source there service_n
    refine ⟨path, fun elsewhere => ?_⟩
    rcases standing with number | closed | listed
    · exact absurd number elsewhere
    · exact closed
    · cases listed
  · intro n s h there
    rw [settles.account, closings, there]
    rfl
  · intro s e kind
    constructor
    · intro registered
      rw [← isRegistered_iff] at registered
      exact ⟨if_pos registered, fun α task a => if_pos registered⟩
    · intro missing
      rw [← isRegistered_iff] at missing
      exact ⟨if_neg missing, fun α task a => if_neg missing⟩
  · intro s
    refine ⟨remove_eq_ok_iff.trans (stored s.name), fun later answer r' serves => ?_⟩
    exact serves.remove_eq_ok_iff.trans (stored s.name)
  · intro later answer r' serves
    have none := serves.kept_of_close
    refine ⟨none, fun n s there => ?_⟩
    -- a source that is handed out has a service, under whose name nothing is stored any more
    have after := settles.serves serves
    have below : n < (added requests ++ (Request.close : Request η).service?.toList).length := by
      rw [← after.size]
      exact (List.getElem?_eq_some_iff.1 there).1
    rcases (after.source there (List.getElem?_eq_getElem below)).2 with number | closed | listed
    · simp [number?, none] at number
    · exact closed
    · cases listed

/-! ## A source that closes another -/

/-- A service of a station. -/
def stationService (station : String) : ServiceConfig :=
  .plain station "localhost" 80 ("weather/" ++ station)

/-- Two stations, each with a hook that waits for the end of its source. -/
def stations : Registry String :=
  { handed := [
      { topicPath := "weather/north", state := .active, onClose := ["first"] },
      { topicPath := "weather/south", state := .active, onClose := ["second"] }]
    kept := [("south", 1), ("north", 0)] }

/-- The first station is added anew, and the hook of the source that is replaced closes the other one. -/
theorem serves_stations : ∃ past r,
    Serves stations (.add (stationService "north")) past (.ok ()) r ∧
    r.kept = [("north", 2), ("south", 1)] ∧
    r.handed = [
      { topicPath := "weather/north", state := .closed, onClose := ["first"] },
      { topicPath := "weather/south", state := .closed, onClose := ["second"] },
      { topicPath := "weather/north", state := .active }] := by
  refine ⟨_, _, .added (.call
    (@Through.hook _ _ _ _ _ [(1, .act .close)] _ _ _ (.call (through_hooks _ _) .done) .done)
    (.call (through_hooks _ _) (.call (through_hooks _ _) .done))), ?_, ?_⟩
  all_goals decide

/-- The second station is still stored then, but its source is closed: its hook has run once, and there
is no target for it. -/
theorem stored_station_is_closed : ∃ past r,
    Course .empty
      [.add (stationService "north"), .add (stationService "south"),
        .call 0 (.attach .closed "first"), .call 1 (.attach .closed "second"),
        .add (stationService "north")] past r ∧
      r.number? "south" = some 1 ∧ past.count ⟨1, .closed, "second"⟩ = 1 ∧
      ∀ e kind, bind r (stationService "south") e kind = .error (.serviceNotActive "south") := by
  obtain ⟨past₁, first, -⟩ := serves_apply .empty (.add (stationService "north"))
  obtain ⟨past₂, second, -⟩ := serves_apply _ (.add (stationService "south"))
  obtain ⟨past₃, third, -⟩ := serves_apply _ (.call 0 (.attach .closed "first"))
  obtain ⟨past₄, fourth, -⟩ := serves_apply _ (.call 1 (.attach .closed "second"))
  obtain ⟨past₅, r, fifth, kept, handed⟩ := serves_stations
  have course := Course.next first (.next second (.next third (.next fourth (.next fifth .ended))))
  have stored : r.number? "south" = some 1 := by
    rw [number?, kept]
    rfl
  have there : r.source? 1 =
      some { topicPath := "weather/south", state := .closed, onClose := ["second"] } := by
    rw [source?, handed]
    rfl
  obtain ⟨-, -, ran, bound, -⟩ := registrations_follow_sources course
  refine ⟨_, r, course, stored, ?_, fun e kind => ((bound _ e kind).2 ?_).1⟩
  · rw [ran 1 _ "second" there]
    rfl
  · rintro ⟨x, named, opened⟩
    obtain ⟨n, number, numbered⟩ := sourceOf?_eq_some_iff.1 named
    obtain rfl : 1 = n := Option.some.inj (stored.symm.trans number)
    rw [there] at numbered
    cases numbered
    exact opened rfl

end TopicRelay.Broker.LogOnly
