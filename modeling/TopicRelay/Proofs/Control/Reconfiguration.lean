/-
Operations of the service manager, from their call to their end. However the chores of an operation
mix and whatever the sessions do meanwhile: once it is over, the services of the model with a poll
period run, in order; the others are its failures; and every service that ran before has been stopped
and removed once, from the client to which it had been added, before the first launch. An operation
can always be brought to its end.
-/
import TopicRelay.Proofs.Control.Manager

namespace TopicRelay.Control

open TopicRelay.Config TopicRelay.Polling TopicRelay.Publication

/-- The services of the model that an operation is given. -/
def Operation.configs : Operation → List ServiceConfig
  | .reconfigure _ m => m.services
  | .close => []

namespace Services

theorem config_wanted (s : Services) (op : Operation) :
    (s.wanted op).map (·.config) = op.configs.filter fun c => c.pollPeriodMs != 0 := by
  cases op with
  | reconfigure ctx m => exact map_config_fresh ctx s.owner s.nextNumber m.services
  | close => rfl

theorem context_wanted {s : Services} {ctx : Context} {m : Model} :
    ∀ r ∈ s.wanted (.reconfigure ctx m), r.context = ctx :=
  fun _ hr => context_of_mem_fresh hr

theorem unwanted_eq (op : Operation) :
    unwanted op = (op.configs.filter fun c => c.pollPeriodMs == 0).map fun c =>
      { service := c.name, error := .invalidPollPeriod c.name 0 } := by
  cases op with
  | reconfigure ctx m => exact refused_eq m.services
  | close => rfl

theorem unwanted_eq_nil_iff (op : Operation) :
    unwanted op = [] ↔ ∀ c ∈ op.configs, c.pollPeriodMs ≠ 0 := by
  simp [unwanted_eq]

end Services

/-- Whether a chore is the launch of a service. -/
def Chore.isLaunch : Chore → Bool
  | .launch _ => true
  | _ => false

namespace Manager

variable {η ε : Type} {s s₁ s' : Manager η} {retired launched : List Chore}

/-! ## An operation under way -/

/-- How far an operation has gone that began in a state: what of its chores has been done since, and
what is left of them. Nothing is launched before everything is retired. -/
structure Underway (s₁ : Manager η) (retired launched : List Chore) (s : Manager η) : Prop where
  services : s.services = s₁.services
  failures : s.failures = s₁.failures
  course : ∃ retiring launching acts₁ acts₂,
    s.pending = retiring ++ launching ∧
    (∀ c ∈ retiring, c.isLaunch = false) ∧ (∀ c ∈ launching, c.isLaunch = true) ∧
    s.acts = s₁.acts ++ (acts₁ ++ acts₂) ∧
    (acts₁.map Act.chore ++ retiring).Perm retired ∧
    acts₂.map Act.chore ++ launching = launched ∧
    (retiring = [] ∨ acts₂ = [])

theorem Underway.launch_done (h : Underway s₁ retired launched s) {right : List Chore} {c : Chore}
    (result : Except PublishingError Unit) (split : s.pending = c :: right)
    (launch : c.isLaunch = true) : Underway s₁ retired launched (s.settle c result right) := by
  obtain ⟨hservices, hfailures, retiring, launching, acts₁, acts₂, hpending, hret, hlau, hacts,
    hperm, hlaunched, -⟩ := h
  rw [split] at hpending
  -- the first chore is a launch, so none of those that retire services is left
  have hnone : retiring = [] := by
    cases retiring with
    | nil => rfl
    | cons b rest =>
      obtain rfl : c = b := (List.cons.inj hpending).1
      rw [hret c (List.mem_cons_self ..)] at launch
      cases launch
  subst hnone
  rw [List.nil_append] at hpending
  subst hpending
  refine ⟨?_, ?_, [], right, acts₁, acts₂ ++ [c.act result], rfl, List.forall_mem_nil _, ?_, ?_, hperm,
    ?_, .inl rfl⟩
  · rw [services_settle, hservices]
  · rw [failures_settle, hfailures]
  · exact fun b hb => hlau b (List.mem_cons_of_mem c hb)
  · rw [acts_settle, hacts]
    simp
  · rw [← hlaunched]
    simp

theorem Underway.retire_done (h : Underway s₁ retired launched s) {left right : List Chore} {c : Chore}
    (result : Except PublishingError Unit) (split : s.pending = left ++ c :: right)
    (retire : c.isLaunch = false) :
    Underway s₁ retired launched (s.settle c result (left ++ right)) := by
  obtain ⟨hservices, hfailures, retiring, launching, acts₁, acts₂, hpending, hret, hlau, hacts,
    hperm, hlaunched, horder⟩ := h
  rw [split] at hpending
  -- the chore stands among those that retire services, wherever it stands among the pending ones
  obtain ⟨others, rfl, rfl⟩ :
      ∃ others, retiring = left ++ c :: others ∧ right = others ++ launching := by
    rcases List.append_eq_append_iff.1 hpending with ⟨x, rfl, hx⟩ | ⟨x, rfl, hx⟩
    · cases x with
      | nil =>
        rw [List.nil_append] at hx
        rw [hlau c (by rw [← hx]; exact List.mem_cons_self ..)] at retire
        cases retire
      | cons b others =>
        obtain ⟨rfl, rfl⟩ := List.cons.inj hx
        exact ⟨others, rfl, rfl⟩
    · rw [hlau c (by rw [hx]; simp)] at retire
      cases retire
  -- something is left to retire, so nothing has been launched
  obtain rfl : acts₂ = [] := by
    rcases horder with hnone | hnone
    · simp at hnone
    · exact hnone
  refine ⟨?_, ?_, left ++ others, launching, acts₁ ++ [c.act result], [], ?_, ?_, hlau, ?_, ?_,
    hlaunched, .inr rfl⟩
  · rw [services_settle, hservices]
  · rw [failures_settle, hfailures]
  · rw [pending_settle, List.append_assoc]
  · intro b hb
    refine hret b ?_
    rcases List.mem_append.1 hb with hb | hb
    · exact List.mem_append_left _ hb
    · exact List.mem_append_right _ (List.mem_cons_of_mem c hb)
  · rw [acts_settle, hacts]
    simp
  · refine List.Perm.trans ?_ hperm
    rw [List.map_append, List.map_singleton, Act.chore_act, List.append_assoc, List.singleton_append]
    exact List.Perm.append_left _ List.perm_middle.symm

theorem Underway.worked (h : Underway s₁ retired launched s) {left right : List Chore} {c : Chore}
    (result : Except PublishingError Unit) (split : s.pending = left ++ c :: right)
    (ready : ∀ b ∈ left, c.mayPass b = true) :
    Underway s₁ retired launched (s.settle c result (left ++ right)) := by
  cases c with
  | stop r | remove r => exact h.retire_done result split rfl
  | launch r =>
    obtain rfl := eq_nil_of_launch_ready ready
    exact h.launch_done result split rfl

theorem Underway.step (h : Underway s₁ retired launched s) (step : s.Step s') :
    Underway s₁ retired launched s' := by
  cases step with
  | idle => exact h
  | worked result split ready => exact h.worked result split ready
  | moved key keeps => exact ⟨h.services, h.failures, h.course⟩

theorem Underway.run (h : Underway s₁ retired launched s) {turns : List (Turn ε η)}
    (uncalled : ∀ turn ∈ turns, turn.isCall = false) :
    Underway s₁ retired launched (s.run turns) := by
  unfold Manager.run
  induction turns generalizing s with
  | nil => exact h
  | cons turn rest ih =>
    rw [List.forall_mem_cons] at uncalled
    exact ih (h.step (step_take uncalled.1 s)) uncalled.2

theorem underway_start (op : Operation) (s : Manager η) :
    Underway (s.start op) (retirement s.services.running)
      ((s.services.wanted op).map .launch) (s.start op) := by
  refine ⟨rfl, rfl, retirement s.services.running, (s.services.wanted op).map .launch, [], [],
    pending_start op s, ?_, ?_, by simp, by simp, by simp, .inr rfl⟩
  · intro c hc
    obtain ⟨r, -, hr⟩ := List.mem_flatMap.1 hc
    rcases List.mem_cons.1 hr with rfl | hr
    · rfl
    · obtain rfl := List.mem_singleton.1 hr
      rfl
  · intro c hc
    obtain ⟨r, -, rfl⟩ := List.mem_map.1 hc
    rfl

/-! ## Operations that are over -/

theorem take_call (op : Operation) {s : Manager η} (free : s.pending = []) :
    s.take (.call op : Turn ε η) = s.start op := by
  simp [take, free]

theorem pending_work (result : Except PublishingError Unit) (s : Manager η) :
    (s.take (.work 0 result : Turn ε η)).pending = s.pending.tail := by
  cases hpending : s.pending with
  | nil => simp [take, hpending]
  | cons c rest => simp [take, hpending]

/-- An operation can always be brought to its end. -/
theorem exists_ended (s : Manager η) :
    ∃ rest : List (Turn ε η), (∀ turn ∈ rest, turn.isCall = false) ∧ (s.run rest).pending = [] := by
  refine ⟨List.replicate s.pending.length (.work 0 (.ok ())), ?_, ?_⟩
  · intro turn hturn
    rw [List.eq_of_mem_replicate hturn]
    rfl
  · generalize hn : s.pending.length = n
    induction n generalizing s with
    | zero => exact List.eq_nil_of_length_eq_zero hn
    | succ n ih =>
      refine ih (s.take (.work 0 (.ok ()) : Turn ε η)) ?_
      rw [pending_work, List.length_tail, hn]
      rfl

theorem Underway.ended (h : Underway s₁ retired launched s) (ended : s.pending = []) :
    ∃ acts₁ acts₂, s.acts = s₁.acts ++ (acts₁ ++ acts₂) ∧
      (acts₁.map Act.chore).Perm retired ∧ acts₂.map Act.chore = launched := by
  obtain ⟨-, -, retiring, launching, acts₁, acts₂, hpending, -, -, hacts, hperm, hlaunched, -⟩ := h
  rw [ended] at hpending
  obtain ⟨rfl, rfl⟩ := List.append_eq_nil_iff.1 hpending.symm
  rw [List.append_nil] at hperm hlaunched
  exact ⟨acts₁, acts₂, hacts, hperm, hlaunched⟩

theorem eq_launched {acts : List Act} {rs : List Running}
    (h : acts.map Act.chore = rs.map .launch) : acts = rs.map .launched := by
  induction acts generalizing rs with
  | nil =>
    rw [List.map_nil, eq_comm, List.map_eq_nil_iff] at h
    rw [h, List.map_nil]
  | cons a rest ih =>
    cases rs with
    | nil => cases h
    | cons r others =>
      obtain ⟨ha, hrest⟩ := List.cons.inj h
      rw [ih hrest, List.map_cons]
      cases a with
      | launched x =>
        cases ha
        rfl
      | stopped x | removed x result => cases ha

/-- What an operation leaves running, and what it answers. -/
theorem Tended.listed_ended {op : Operation} (tended : s'.Tended)
    (underway : Underway (s.start op) retired launched s') (ended : s'.pending = []) :
    s'.listed = s.services.wanted op ∧ s'.failures = Services.unwanted op := by
  obtain ⟨hrunning, -, -, hfailures, -⟩ := s.services.operate_eq op
  constructor
  · rw [← (tended.at_rest ended).1, underway.services]
    exact hrunning
  · rw [underway.failures]
    exact hfailures

/-- Reconfigurations and closings are total. Whatever has happened before one is called, and whatever
the sessions do while it goes on, it can be brought to its end at any time; and the sessions that live
are those of the services that are listed or yet to be stopped. Once it is over:

* the services of the model with a poll period run, in order, and those without one are its failures;
  a closing leaves nothing running;
* every service that was listed before has been stopped once and removed once, whatever came of the
  removal, from the client to which it had been added, and all this before the first launch;
* each session that was ever held has either been stopped or is that of a listed service, not both. -/
theorem reconfiguration_total (owner : Owner) (turns : List (Turn ε η))
    (idle : ((fresh owner : Manager η).run turns).pending = []) (op : Operation)
    (more : List (Turn ε η)) (uncalled : ∀ turn ∈ more, turn.isCall = false) :
    let s := (fresh owner : Manager η).run turns
    let s' := (s.take (.call op : Turn ε η)).run more
    (∃ rest : List (Turn ε η),
      (∀ turn ∈ rest, turn.isCall = false) ∧ (s'.run rest).pending = []) ∧
    (∀ p ∈ s'.sessions,
      p.2.stopped = false ↔ p.1 ∈ (s'.listed ++ Chore.stops s'.pending).map (·.session)) ∧
    (s'.pending = [] →
      s'.services.running = s'.listed ∧
      s'.listed.map (·.config) = op.configs.filter (fun c => c.pollPeriodMs != 0) ∧
      (∀ ctx m, op = .reconfigure ctx m → ∀ r ∈ s'.listed, r.context = ctx) ∧
      s'.failures = ((op.configs.filter fun c => c.pollPeriodMs == 0).map fun c =>
        { service := c.name, error := .invalidPollPeriod c.name 0 }) ∧
      (s'.failures = [] ↔ ∀ c ∈ op.configs, c.pollPeriodMs ≠ 0) ∧
      (∃ retired : List Act,
        s'.acts = s.acts ++ (retired ++ s'.listed.map .launched) ∧
        (retired.map Act.chore).Perm (s.listed.flatMap fun r => [.stop r, .remove r])) ∧
      (s.listed.map (·.session)).Nodup ∧
      (∀ r ∈ s.listed, .launched r ∈ s.acts) ∧
      (∀ p ∈ s'.sessions, p.2.stopped = true ↔ p.1 ∉ s'.listed.map (·.session)) ∧
      (∀ r ∈ s'.listed, ∃ x, (r.session, x) ∈ s'.sessions ∧ x.service = r.config) ∧
      (s'.listed.map (·.session)).Nodup ∧ s'.keys.Nodup) := by
  intro s s'
  have tended : s.Tended := run_tended (fresh_tended owner) turns
  have tended' : s'.Tended := run_tended (take_tended tended _) more
  have underway : Underway (s.start op) (retirement s.services.running)
      ((s.services.wanted op).map .launch) s' := by
    have : s' = (s.start op).run more := by
      show (s.take (.call op : Turn ε η)).run more = _
      rw [take_call op idle]
    rw [this]
    exact (underway_start op s).run uncalled
  obtain ⟨hlisted, hliving₀⟩ := tended.at_rest idle
  refine ⟨exists_ended s', tended'.live, fun ended => ?_⟩
  obtain ⟨hrunning, hliving⟩ := tended'.at_rest ended
  obtain ⟨hwanted, hfailures⟩ := tended'.listed_ended underway ended
  obtain ⟨acts₁, acts₂, hacts, hretired, hlaunched⟩ := underway.ended ended
  refine ⟨hrunning, ?_, ?_, ?_, ?_, ⟨acts₁, ?_, ?_⟩, ?_, ?_, ?_, ?_, ?_, ?_⟩
  · rw [hwanted]
    exact Services.config_wanted s.services op
  · rintro ctx m rfl
    rw [hwanted]
    exact Services.context_wanted
  · rw [hfailures]
    exact Services.unwanted_eq op
  · rw [hfailures]
    exact Services.unwanted_eq_nil_iff op
  · rw [hwanted, ← eq_launched hlaunched]
    exact hacts
  · rw [hlisted] at hretired
    exact hretired
  · rw [← hliving₀]
    exact tended.once
  · rw [← hliving₀]
    exact tended.launched
  · intro p hp
    have := tended'.live p hp
    rw [hliving] at this
    rw [← this, Bool.not_eq_false]
  · rw [← hliving]
    exact tended'.held
  · rw [← hliving]
    exact tended'.once
  · exact List.Nodup.of_append_left tended'.distinct

/-! ## A run -/

/-- A service with a poll period, or without one. -/
def runService (name : String) (pollPeriodMs : UInt64) : ServiceConfig :=
  { name, host := name ++ ".test", topicPathRoot := name, pollPeriodMs }

/-- The reconfiguration to some services. -/
def runOperation (services : List ServiceConfig) : Operation :=
  .reconfigure
    { client := .standIn, http := { number := 0, security := [], trust := none }, observed := true }
    { active := true, broker := .at "broker.test" 8080, services }

/-- Two services run. -/
def runBefore : List (Turn Unit Unit) :=
  [.call (runOperation [runService "a" 1000, runService "b" 500]),
    .work 0 (.ok ()), .work 0 (.ok ())]

/-- The second is stopped and removed first, which fails, while the session of the first starts. -/
def runDuring : List (Turn Unit Unit) :=
  [.work 2 (.ok ()), .move { owner := .manager, number := 0 } (.start 0),
    .work 2 (.error .sessionClosed), .work 1 (.ok ()), .work 0 (.ok ()), .work 0 (.ok ()),
    .work 0 (.ok ())]

theorem reconfiguration_total_mixed :
    let s := (fresh .manager : Manager Unit).run runBefore
    let op := runOperation [runService "c" 0, runService "d" 250]
    let s' := (s.take (.call op : Turn Unit Unit)).run runDuring
    s.pending = [] ∧ (∀ turn ∈ runDuring, turn.isCall = false) ∧ s'.pending = [] ∧
      s'.listed.map (·.config) = [runService "d" 250] ∧
      s'.failures = [{ service := "c", error := .invalidPollPeriod "c" 0 }] := by
  intro s op s'
  have idle : s.pending = [] := by decide +kernel
  have uncalled : ∀ turn ∈ runDuring, turn.isCall = false := by decide +kernel
  have ended : s'.pending = [] := by decide +kernel
  obtain ⟨-, -, total⟩ := reconfiguration_total .manager runBefore idle op runDuring uncalled
  obtain ⟨-, hlisted, -, hfailures, -⟩ := total ended
  exact ⟨idle, uncalled, ended, hlisted.trans (by decide +kernel), hfailures.trans (by decide +kernel)⟩

end Manager

end TopicRelay.Control
