/-
What a run comes to for one endpoint. Of a service that runs, an endpoint has its own script, the
outcome of its own topic, its own first requests under way, and its own cycle; `Solo` holds these and
the jobs that are to be done for the endpoint, ready or waiting for their instants. What a solo does is
settled by its jobs alone, so that two runs which have it in common have all that concerns the endpoint
in common.
-/
import TopicRelay.Simulation.Command
import TopicRelay.Proofs.Time.Lanes
import Mathlib.Logic.Function.Iterate

namespace TopicRelay.Simulation

open TopicRelay.Broker TopicRelay.Config TopicRelay.Content TopicRelay.Control
open TopicRelay.Polling TopicRelay.Publication

/-! ## Histories -/

/-- Whether a log entry tells that a result of an endpoint has been published. -/
def tellsOf (s : ServiceConfig) (e : EndpointConfig) (entry : Log.Entry) : Bool :=
  entry.event == "poll_publish_ok" &&
    entry.fields.contains ("endpoint", .text (s.endpointLabel e))

/-- What concerns an endpoint of a service, with its times, the latest first: requests, topics that are
asked for, and values that its handler publishes. A publication is the endpoint's if the entry that
comes with it says so, since another endpoint may have the same topic. -/
def History.concerning (s : ServiceConfig) (e : EndpointConfig) : History → History
  | [] => []
  | (t, .requested r) :: rest =>
    if r.service = s.name ∧ r.endpoint = e.name then (t, .requested r) :: concerning s e rest
    else concerning s e rest
  | (t, .topicAsked q) :: rest =>
    if q.service = s.name ∧ q.endpoint.name = e.name then (t, .topicAsked q) :: concerning s e rest
    else concerning s e rest
  | (_, .logged entry) :: (t, .published key path v) :: rest =>
    if tellsOf s e entry then (t, .published key path v) :: concerning s e rest
    else concerning s e rest
  | _ :: rest => concerning s e rest

/-! ## Solos -/

/-- What is to be done for an endpoint. -/
inductive Job where
  /-- A bring-up begins. -/
  | begin
  /-- The first request of a bring-up is answered. -/
  | answer (a : Answer)
  /-- Its cycle has a turn. -/
  | poll

/-- Whether a service has been started and stopped. -/
inductive Life where
  | idle
  | live
  | ended
  deriving DecidableEq

/-- The part of a run that concerns one endpoint. -/
structure Solo where
  now : Nat := 0
  life : Life := .idle
  queued : List Answer := []
  repeated : Option Answer := none
  delay : Nat := 0
  outcome : Except TopicCreationError TopicCreation := .ok .created
  /-- Whether the source of the service is active. -/
  active : Bool := false
  /-- The handler of the endpoint and how far its cycle has gone, once it is tracked. -/
  feed : Option (Handler × Stage) := none
  ready : List Job := []
  waiting : List (Nat × Job) := []
  told : History := []

/-- The only session of the services of the manager. -/
def soloKey : SessionKey := ⟨.manager, 0⟩

/-- The topic that is asked for with a resolved endpoint of the service. -/
def soloTopic (s : ServiceConfig) (r : Resolved) : TopicRequest :=
  { session := soloKey, service := s.name, endpoint := r.pinned
    topicPath := s.topicPath r.pinned, kind := r.kind, initial := r.initial }

namespace Solo

variable (s : ServiceConfig) (e : EndpointConfig)

/-- The next answer of the endpoint. -/
def answer (v : Solo) : Answer :=
  match v.queued with
  | a :: _ => a
  | [] => v.repeated.getD (noAnswer e.name)

/-- Something happens that concerns the endpoint. -/
def tell (h : Happening) (v : Solo) : Solo :=
  { v with told := (v.now, h) :: v.told }

/-- A request is sent. -/
def request (purpose : Purpose) (v : Solo) : Solo :=
  { v.tell (.requested { session := soloKey, purpose, service := s.name, endpoint := e.name }) with
    queued := v.queued.tail }

/-- The cycle enters a stage. -/
def setStage (stage : Stage) (v : Solo) : Solo :=
  { v with feed := v.feed.map fun f => (f.1, stage) }

/-- A job is to be done at an instant. -/
def await (due : Nat) (job : Job) (v : Solo) : Solo :=
  { v with waiting := v.waiting ++ [(due, job)] }

/-- The endpoint is tracked, if it is not yet. -/
def track (r : Resolved) (v : Solo) : Solo :=
  if v.feed.isSome then v
  else
    match Handler.create (fun kind => .ok (Target.of s r.pinned kind)) s r.pinned with
    | .ok h => { v with feed := some (h, .resting v.now), ready := v.ready ++ [.poll] }
    | .error _ => v

/-- The topic of the resolved endpoint is asked for; once it is there, the endpoint is tracked. -/
def ask (r : Resolved) (v : Solo) : Solo :=
  match v.outcome with
  | .error _ => v.tell (.topicAsked (soloTopic s r))
  | .ok _ => (v.tell (.topicAsked (soloTopic s r))).track s r

/-- The first answer of a bring-up is taken. -/
def conclude (a : Answer) (v : Solo) : Solo :=
  match resolveAnswer e a with
  | .error _ => v
  | .ok r => v.ask s r

/-- A bring-up begins. -/
def begin (v : Solo) : Solo :=
  if v.delay = 0 then (v.request s e .bringUp).conclude s e (v.answer e)
  else (v.request s e .bringUp).await (v.now + v.delay) (.answer (v.answer e))

/-- An answer of a poll is handed to the handler. -/
def deliver (h : Handler) (a : Answer) (v : Solo) : Solo :=
  match h.value a with
  | .error _ => v
  | .ok x =>
    match h.target.check x with
    | .error _ => v
    | .ok _ => v.tell (.published (some soloKey) h.target.topicPath x)

/-- How long a cycle of the service rests. -/
def rest (v : Solo) : Nat :=
  v.now + s.pollPeriodMs.toNat

/-- The cycle hands over an answer and rests. -/
def finish (h : Handler) (a : Answer) (v : Solo) : Solo :=
  ((v.deliver h a).setStage (.resting (v.rest s))).await (v.rest s) .poll

/-- The cycle has a turn. -/
def poll (v : Solo) : Solo :=
  match v.feed with
  | some (h, .resting _) =>
    if v.delay = 0 then (v.request s e .poll).finish s h (v.answer e)
    else
      ((v.request s e .poll).setStage (.requesting (v.now + v.delay) (v.answer e))).await
        (v.now + v.delay) .poll
  | some (h, .requesting _ a) => v.finish s h a
  | _ => v

/-- A job is done. -/
def perform (v : Solo) : Job → Solo
  | .begin => v.begin s e
  | .answer a => v.conclude s e a
  | .poll => v.poll s e

/-- The job that stands first is done. -/
def turn (v : Solo) : Solo :=
  match v.ready with
  | [] => v
  | job :: rest => { v with ready := rest }.perform s e job

/-- What is done for what a task wants at an instant, if that has come; what it wants then is still to
come. -/
def Attends (now : Nat) (v : Solo) (need : Option (Nat × Job)) (v' : Solo)
    (need' : Option (Nat × Job)) : Prop :=
  match Time.Agenda.readyJob now need with
  | none => v' = v ∧ need' = need
  | some job =>
    v.perform s e job = { v' with waiting := v'.waiting ++ need'.toList } ∧ ∀ p ∈ need', now < p.1

/-- An instant has come. -/
def wakeAt (now : Nat) (v : Solo) : Solo :=
  { v with
    now
    ready := v.waiting.filterMap fun p => if p.1 ≤ now then some p.2 else none
    waiting := v.waiting.filter fun p => decide (now < p.1) }

/-- Every job that is ready is done. -/
def Settles (v v' : Solo) : Prop :=
  ∃ n, (turn s e)^[n] v = v' ∧ v'.ready = []

/-- The time goes on up to and including an instant, and all that is due is done. -/
inductive Elapses (target : Nat) : Solo → Solo → Prop
  | done {v : Solo} (calm : ∀ p ∈ v.waiting, target < p.1) : Elapses target v v
  | tick {v v₁ v₂ : Solo} {p : Nat × Job} (first : p ∈ v.waiting) (least : ∀ q ∈ v.waiting, p.1 ≤ q.1)
      (within : p.1 ≤ target) (settles : Settles s e (v.wakeAt p.1) v₁)
      (rest : Elapses target v₁ v₂) : Elapses target v v₂

/-- What a command changes at once. -/
def heed (v : Solo) : Command → Solo
  | .script endpoint once repeated delay =>
    if endpoint = e.name then
      { v with
        queued := v.queued ++ once
        repeated := repeated.or v.repeated
        delay := delay.getD v.delay }
    else v
  | .topicOutcome endpoint outcome => if endpoint = e.name then { v with outcome } else v
  | .source _ .standby => if v.life = .live then { v with active := false } else v
  | .closeServices => if v.life = .live then { v with life := .ended } else v
  | _ => v

/-- What a command comes to for the endpoint. -/
def Hears (v : Solo) : Command → Solo → Prop
  | .advance ms, v' =>
    if v.life = .live ∧ ms ≠ 0 then ∃ v₁, Elapses s e (v.now + ms) v v₁ ∧ v' = { v₁ with now := v.now + ms }
    else v' = { v with now := v.now + ms }
  | .source _ .activate, v' =>
    if v.life = .live ∧ v.active = false then
      Settles s e { v with active := true, ready := [.begin] } v'
    else v' = v
  | c, v' => v' = v.heed e c

/-- What commands come to for the endpoint. -/
inductive HearsAll : List Command → Solo → Solo → Prop
  | nil (v : Solo) : HearsAll [] v v
  | cons {c : Command} {cs : List Command} {v v₁ v₂ : Solo} (first : Hears s e v c v₁)
      (rest : HearsAll cs v₁ v₂) : HearsAll (c :: cs) v v₂

/-! ## A solo is settled -/

variable {s e} {v v₁ v₂ : Solo}

theorem turn_of_ready (idle : v.ready = []) : v.turn s e = v := by
  unfold turn
  rw [idle]

theorem iterate_turn_of_ready (idle : v.ready = []) (n : Nat) : (turn s e)^[n] v = v :=
  Function.iterate_fixed (turn_of_ready idle) n

theorem Settles.unique (h : Settles s e v v₁) (h' : Settles s e v v₂) : v₁ = v₂ := by
  obtain ⟨n, rfl, hn⟩ := h
  obtain ⟨m, rfl, hm⟩ := h'
  rcases Nat.le_total n m with hle | hle
  · obtain ⟨k, rfl⟩ := Nat.exists_eq_add_of_le hle
    rw [Nat.add_comm, Function.iterate_add_apply, iterate_turn_of_ready hn]
  · obtain ⟨k, rfl⟩ := Nat.exists_eq_add_of_le hle
    rw [Nat.add_comm, Function.iterate_add_apply, iterate_turn_of_ready hm]

theorem Settles.refl (idle : v.ready = []) : Settles s e v v :=
  ⟨0, rfl, idle⟩

section Clock

theorem clock_conclude (a : Answer) (v : Solo) :
    (v.conclude s e a).now = v.now ∧ (v.conclude s e a).life = v.life := by
  unfold conclude ask track
  repeat' split
  all_goals exact ⟨rfl, rfl⟩

theorem clock_finish (h : Handler) (a : Answer) (v : Solo) :
    (v.finish s h a).now = v.now ∧ (v.finish s h a).life = v.life := by
  unfold finish deliver
  repeat' split
  all_goals exact ⟨rfl, rfl⟩

theorem clock_turn (v : Solo) : (v.turn s e).now = v.now ∧ (v.turn s e).life = v.life := by
  unfold turn
  split
  · exact ⟨rfl, rfl⟩
  · next job rest ready =>
    cases job with
    | begin =>
      unfold perform begin
      dsimp only
      split
      · exact clock_conclude _ _
      · exact ⟨rfl, rfl⟩
    | answer a => exact clock_conclude a _
    | poll =>
      unfold perform poll
      dsimp only
      split
      · split
        · exact clock_finish _ _ _
        · exact ⟨rfl, rfl⟩
      · exact clock_finish _ _ _
      · exact ⟨rfl, rfl⟩

theorem Settles.clock (h : Settles s e v v₁) : v₁.now = v.now ∧ v₁.life = v.life := by
  obtain ⟨n, rfl, -⟩ := h
  induction n with
  | zero => exact ⟨rfl, rfl⟩
  | succ n ih =>
    rw [Function.iterate_succ_apply']
    exact ⟨(clock_turn _).1.trans ih.1, (clock_turn _).2.trans ih.2⟩

theorem Elapses.life {target : Nat} (h : Elapses s e target v v₁) : v₁.life = v.life := by
  induction h with
  | done _ => rfl
  | tick _ _ _ settles _ ih => exact ih.trans settles.clock.2

end Clock

theorem Elapses.unique {target : Nat} (h : Elapses s e target v v₁)
    (h' : Elapses s e target v v₂) : v₁ = v₂ := by
  induction h generalizing v₂ with
  | done calm =>
    cases h' with
    | done _ => rfl
    | tick first _ within _ _ => exact absurd within (Nat.not_le.2 (calm _ first))
  | tick first least within settles _ ih =>
    cases h' with
    | done calm => exact absurd within (Nat.not_le.2 (calm _ first))
    | tick first' least' _ settles' rest' =>
      rw [Nat.le_antisymm (least _ first') (least' _ first)] at settles
      rw [settles.unique settles'] at ih
      exact ih rest'

theorem Hears.unique {c : Command} (h : Hears s e v c v₁) (h' : Hears s e v c v₂) : v₁ = v₂ := by
  cases c with
  | advance ms =>
    simp only [Hears] at h h'
    split at h
    · next goes =>
      rw [if_pos goes] at h'
      obtain ⟨u, elapses, rfl⟩ := h
      obtain ⟨u', elapses', rfl⟩ := h'
      rw [elapses.unique elapses']
    · next rests =>
      rw [if_neg rests] at h'
      rw [h, h']
  | source service a =>
    cases a with
    | activate =>
      simp only [Hears] at h h'
      split at h
      · next awaited =>
        rw [if_pos awaited] at h'
        exact h.unique h'
      · next vain =>
        rw [if_neg vain] at h'
        rw [h, h']
    | register | standby | close => exact Eq.trans h (Eq.symm h')
  | _ => exact Eq.trans h (Eq.symm h')

theorem HearsAll.unique {cs : List Command} (h : HearsAll s e cs v v₁)
    (h' : HearsAll s e cs v v₂) : v₁ = v₂ := by
  induction h with
  | nil v =>
    cases h'
    rfl
  | cons first _ ih =>
    cases h' with
    | cons first' rest' =>
      rw [first.unique first'] at ih
      exact ih rest'

end Solo
end TopicRelay.Simulation
