/-
The books of the poll metrics. Any number of sessions tell one counting listener of their polls, while
they are held, started, stopped and let go, endpoints are brought up and cycles take their steps in any
order. Each poll that is announced ends in a response, in a failure, or with its cycle when its session
has been stopped; until then it is outstanding. The totals are those of the events that were heard, so
that they balance at every moment, as far as counters that wrap around can tell.
-/
import TopicRelay.Proofs.Polling.Accounts
import TopicRelay.Proofs.Simulation.Binding
import TopicRelay.Simulation.Run
import Mathlib.Algebra.Order.BigOperators.Group.List
import Mathlib.Algebra.Order.Group.Nat
import Mathlib.Data.List.Infix

namespace TopicRelay.Simulation

open TopicRelay.Broker TopicRelay.Config TopicRelay.Content TopicRelay.Control
open TopicRelay.Polling TopicRelay.Publication

/-! ## Definitions -/

/-- What the counting listener hears of the poll events of a session. -/
def Member.heard (m : Member) (told : List PollEvent) : List PollEvent :=
  if m.counted then told else []

/-- The outstanding polls of a session that the listener has heard of. -/
def Member.outstanding (m : Member) : List (SessionKey × Nat) :=
  if m.counted then m.session.announced.map fun epoch => (m.key, epoch) else []

/-- The endpoints that a session tracks, if the listener hears of its polls. -/
def Member.tracked (m : Member) : List String :=
  if m.counted then m.session.endpoints else []

namespace World

/-- The polls that have been announced to the counting listener and whose outcome is yet to be
reported, by their sessions and epochs. -/
def outstanding (w : World) : List (SessionKey × Nat) :=
  w.members.flatMap Member.outstanding

/-- The endpoints tracked by the sessions that the counting listener hears of. -/
def tracked (w : World) : List String :=
  w.members.flatMap Member.tracked

/-- The polls that were outstanding and whose cycles have ended since. -/
def leaves (w w' : World) : List (SessionKey × Nat) :=
  w.outstanding.filter fun p => (w'.cycle? p.1 p.2).isNone

/-- Whether a session that the counting listener hears of has been stopped. -/
def HasStopped (key : SessionKey) (w : World) : Prop :=
  ∃ m, w.member? key = some m ∧ m.counted = true ∧ m.session.stopped = true

/-- Lets sessions go that nobody holds any more, unless an execution of a cycle is under way. -/
def release (held : SessionKey → Bool) (w : World) : World :=
  { w with members := w.members.filter fun m => held m.key || hasRequest m }

/-- Sessions are told apart by their keys, and each of them is in order. -/
structure Tidy (w : World) : Prop where
  keys : (w.members.map fun m => m.key).Nodup
  orderly : ∀ m ∈ w.members, m.session.Orderly

/-- The books of the counting listener while it hears of some events and some outstanding polls are left
behind. -/
structure Booked (w w' : World) (heard : List PollEvent) (left : List (SessionKey × Nat)) : Prop where
  tidy : w'.Tidy
  metrics : w'.metrics = heard.foldl Metrics.count w.metrics
  balance : w.outstanding.length + heard.count .request =
    w'.outstanding.length + heard.countP (· != .request) + left.length

/-- The same for one thing that happens, where polls are left behind only by sessions that have been
stopped. -/
structure Entered (w w' : World) (heard : List PollEvent) : Prop extends
    Booked w w' heard (w.leaves w') where
  left : ∀ p ∈ w.leaves w', w.HasStopped p.1

/-- A session stands among others that have other keys. -/
structure Among (before after : List Member) (m : Member) (w : World) : Prop where
  members : w.members = before ++ m :: after
  apart : ∀ x ∈ before ++ after, x.key ≠ m.key

end World

namespace Scene

/-- What can happen to sessions that share a listener: moves, and that some of them are let go. -/
inductive Incident where
  | move (mv : Move)
  | release (held : SessionKey → Bool)

/-- Lets something happen. -/
def undergo (x : Scene) : Incident → Scene
  | .move mv => x.take mv
  | .release held => { x with world := x.world.release held }

/-- Lets things happen one after the other. -/
def undergoAll (x : Scene) (incidents : List Incident) : Scene :=
  incidents.foldl undergo x

/-- Whether something is a step of a cycle. -/
def Incident.isCycle : Incident → Bool
  | .move (.cycle _ _ _) => true
  | _ => false

/-- Something happens that writes the request of a bring-up. -/
def AsksBringUp (x : Scene) (i : Incident) : Prop :=
  ∃ fresh now r, (x.undergo i).world.history = fresh ++ x.world.history ∧
    (now, .requested r) ∈ fresh ∧ r.purpose = .bringUp

/-- The poll events that the counting listener hears of: those of the steps of cycles. -/
def heard (x : Scene) : Incident → List PollEvent
  | .move (.cycle key epoch step) =>
    match x.world.member? key with
    | some m => m.heard ((step.take x.world.now epoch m.session).2.filterMap CycleEffect.event?)
    | none => []
  | _ => []

/-- The poll events that the counting listener hears of while things happen, and the outstanding polls
that are left behind. -/
def account (x : Scene) : List Incident → List PollEvent × List (SessionKey × Nat)
  | [] => ([], [])
  | i :: rest =>
    let next := x.undergo i
    let (heard, left) := next.account rest
    (x.heard i ++ heard, x.world.leaves next.world ++ left)

end Scene

variable {w w' w₁ : World} {key : SessionKey} {m m' : Member} {before after : List Member}
  {told heard : List PollEvent} {x : Scene}

/-! ## Sessions among others -/

namespace World

theorem Tidy.member?_of_mem (h : w.Tidy) (hm : m ∈ w.members) : w.member? m.key = some m :=
  find?_of_nodup_map h.keys hm

theorem Tidy.among (h : w.Tidy) (there : w.member? key = some m) :
    ∃ before after, Among before after m w := by
  obtain ⟨before, after, hmembers⟩ := List.append_of_mem (List.mem_of_find?_eq_some there)
  refine ⟨before, after, hmembers, fun x hx same => ?_⟩
  have keys := h.keys
  rw [hmembers, List.map_append, List.map_cons, List.nodup_middle, List.nodup_cons,
    ← List.map_append] at keys
  exact keys.1 (List.mem_map.2 ⟨x, hx, same⟩)

theorem Among.of_members (h : Among before after m w) (members : w'.members = w.members) :
    Among before after m w' :=
  ⟨members.trans h.members, h.apart⟩

theorem Among.member? (h : Among before after m w) : w.member? m.key = some m := by
  have absent : before.find? (fun x => x.key == m.key) = none := by
    rw [List.find?_eq_none]
    intro x hx
    simpa using h.apart x (List.mem_append_left _ hx)
  rw [World.member?, h.members, List.find?_append, absent, List.find?_cons_of_pos (by simp)]
  rfl

theorem Among.mapMember (h : Among before after m w) {f : Member → Member}
    (same : (f m).key = m.key) : Among before after (f m) (w.mapMember m.key f) := by
  have others {l : List Member} (hl : ∀ x ∈ l, x.key ≠ m.key) :
      (l.map fun x => if x.key == m.key then f x else x) = l := by
    conv_rhs => rw [← List.map_id l]
    refine List.map_congr_left fun x hx => ?_
    simp [hl x hx]
  refine ⟨?_, fun x hx => same ▸ h.apart x hx⟩
  show List.map _ w.members = _
  rw [h.members, List.map_append, List.map_cons, others fun x hx => h.apart x (List.mem_append_left _ hx),
    others fun x hx => h.apart x (List.mem_append_right _ hx), if_pos (beq_self_eq_true m.key)]

theorem Among.settleSession (h : Among before after m w) (s : Polling.Session Handler)
    (effects : List SessionEffect) :
    Among before after { m with session := s } (w.settleSession m.key s effects) :=
  (h.mapMember (f := fun m => { m with session := s }) rfl).of_members
    (members_performSession m.key effects _)

theorem Among.stopSession (h : Among before after m w) :
    Among before after { m with session := m.session.stop.1 } (w.stopSession m.key) := by
  unfold World.stopSession
  rw [h.member?]
  exact h.settleSession _ _

/-! ## What leaves the totals as they are -/

theorem metrics_performSession (key : SessionKey) :
    ∀ (effects : List SessionEffect) (w : World),
      (effects.foldl (performSession key) w).metrics = w.metrics
  | [], _ => rfl
  | e :: rest, w => by
    rw [List.foldl_cons, metrics_performSession key rest]
    cases e <;> rfl

theorem metrics_settleSession (key : SessionKey) (s : Polling.Session Handler)
    (effects : List SessionEffect) (w : World) :
    (w.settleSession key s effects).metrics = w.metrics :=
  metrics_performSession key effects _

theorem metrics_stopSession (key : SessionKey) (w : World) :
    (w.stopSession key).metrics = w.metrics := by
  unfold stopSession
  split
  · rfl
  · exact metrics_settleSession key _ _ w

theorem metrics_addEndpoint (key : SessionKey) (e : EndpointConfig) (w : World) :
    (w.addEndpoint key e).1.metrics = w.metrics := by
  unfold addEndpoint
  split
  · rfl
  · exact metrics_settleSession key _ _ w

/-- A bring-up is no poll: wherever it goes on, nothing is counted. -/
theorem metrics_resume (p : Pass) (e : EndpointConfig) (w : World) (phase : Phase) :
    (w.resume p e phase).1.metrics = w.metrics := by
  cases phase with
  | admitted r =>
    simp only [resume]
    split <;>
      exact (endBringUp_congr (f := metrics) (fun _ _ => rfl) p e _ _).trans
        (metrics_addEndpoint p.session r.pinned w)
  | pending | asked | resolved | creating | created | ended =>
    exact resume_congr (f := metrics) (fun _ _ => rfl) (fun _ _ => rfl) p e w (by simp)

end World

/-! ## What the listener hears -/

theorem Member.heard_nil (m : Member) : m.heard [] = [] := by
  unfold heard
  split <;> rfl

theorem Member.heard_append (m : Member) (told more : List PollEvent) :
    m.heard (told ++ more) = m.heard told ++ m.heard more := by
  unfold heard
  split <;> rfl

namespace World

/-- A member whose session goes on or is stopped. -/
structure Remains (m m' : Member) : Prop where
  key : m'.key = m.key
  counted : m'.counted = m.counted
  session : m'.session = m.session ∨ m'.session = m.session.stop.1

theorem Remains.refl (m : Member) : Remains m m :=
  ⟨rfl, rfl, .inl rfl⟩

theorem Remains.trans {m'' : Member} (h : Remains m m') (h' : Remains m' m'') : Remains m m'' := by
  refine ⟨h'.key.trans h.key, h'.counted.trans h.counted, ?_⟩
  rcases h.session with same | stopped <;> rcases h'.session with same' | stopped'
  · exact .inl (same'.trans same)
  · exact .inr (by rw [stopped', same])
  · exact .inr (same'.trans stopped)
  · right
    rw [stopped', stopped, (Polling.Session.silent_stop m.session).stop]

/-- A poll event is counted if the listener hears of it, and may stop its session. -/
theorem Among.pollEvent (h : Among before after m w) (ev : PollEvent) :
    ∃ m', Among before after m' (w.pollEvent m.key ev) ∧ Remains m m' ∧
      (w.pollEvent m.key ev).metrics = (m.heard [ev]).foldl Metrics.count w.metrics := by
  unfold World.pollEvent
  rw [h.member?]
  dsimp only
  generalize counts : (if m.counted then { w with metrics := w.metrics.count ev } else w) = w₁
  have among : Among before after m w₁ := by
    subst counts
    split <;> exact h.of_members rfl
  have metrics : w₁.metrics = (m.heard [ev]).foldl Metrics.count w.metrics := by
    subst counts
    unfold Member.heard
    split <;> rfl
  split
  · have disarmed := among.mapMember (f := fun m => { m with stopOn := none }) rfl
    exact ⟨_, disarmed.stopSession, ⟨rfl, rfl, .inr rfl⟩, (metrics_stopSession _ _).trans metrics⟩
  · exact ⟨m, among, .refl m, metrics⟩

theorem Among.performCycle {m₀ : Member} (h : Among before after m w) (same : m.key = m₀.key)
    (e : CycleEffect Handler) :
    ∃ m', Among before after m' (w.performCycle m₀ e) ∧ Remains m m' ∧
      (w.performCycle m₀ e).metrics = (m.heard e.event?.toList).foldl Metrics.count w.metrics := by
  have unheard := congrArg (List.foldl Metrics.count w.metrics) m.heard_nil
  cases e with
  | log | send | settle | abandon => exact ⟨m, h.of_members rfl, .refl m, unheard.symm⟩
  | tell ev =>
    obtain ⟨m', among, remains, metrics⟩ := h.pollEvent ev
    rw [same] at among metrics
    exact ⟨m', among, remains, metrics⟩
  | deliver c handler answer =>
    have members := handle_congr (f := World.members) (fun _ _ => rfl) m₀ handler answer w
    have metrics := handle_congr (f := World.metrics) (fun _ _ => rfl) m₀ handler answer w
    exact ⟨m, h.of_members members, .refl m, metrics.trans unheard.symm⟩

theorem Among.performCycles (m₀ : Member) :
    ∀ (effects : List (CycleEffect Handler)) {m : Member} {w : World}, Among before after m w →
      m.key = m₀.key →
      ∃ m', Among before after m' (effects.foldl (World.performCycle m₀) w) ∧ Remains m m' ∧
        (effects.foldl (World.performCycle m₀) w).metrics =
          (m.heard (effects.filterMap CycleEffect.event?)).foldl Metrics.count w.metrics
  | [], m, w, h, _ => by
    refine ⟨m, h, .refl m, ?_⟩
    rw [List.filterMap_nil, m.heard_nil]
    rfl
  | e :: rest, m, w, h, same => by
    obtain ⟨m₁, among, remains, metrics⟩ := h.performCycle same e
    obtain ⟨m₂, among₂, remains₂, metrics₂⟩ :=
      among.performCycles m₀ rest (remains.key.trans same)
    refine ⟨m₂, among₂, remains.trans remains₂, ?_⟩
    have split : (e :: rest).filterMap CycleEffect.event? =
        e.event?.toList ++ rest.filterMap CycleEffect.event? := by
      cases he : e.event? <;> simp [he]
    have counted : m₁.heard (rest.filterMap CycleEffect.event?) =
        m.heard (rest.filterMap CycleEffect.event?) := by
      unfold Member.heard
      rw [remains.counted]
    rw [List.foldl_cons, metrics₂, counted, metrics, split, m.heard_append, List.foldl_append]

/-! ## The books of one incident -/

/-- An outstanding poll of a session that is held as it was is not left behind. -/
theorem outstanding_held (there : w.member? m.key = some m) :
    m.outstanding.filter (fun p => (w.cycle? p.1 p.2).isNone) = [] := by
  rw [List.filter_eq_nil_iff]
  intro p hp gone
  unfold Member.outstanding at hp
  split at hp
  · obtain ⟨epoch, announced, rfl⟩ := List.mem_map.1 hp
    obtain ⟨c, hc, rfl⟩ := List.mem_map.1 announced
    rw [World.cycle?, there] at gone
    exact (m.session.cycle?_isNone c.epoch).1 gone c (List.mem_filter.1 hc).1 rfl
  · cases hp

/-- Polls are left behind only where a session that has some is not held as it was. -/
theorem leaves_eq_nil (held : ∀ m ∈ w.members, m.outstanding = [] ∨ w'.member? m.key = some m) :
    w.leaves w' = [] := by
  rw [leaves, outstanding, List.filter_flatMap, List.flatMap_eq_nil_iff]
  intro m hm
  rcases held m hm with none | there
  · rw [none]
    rfl
  · exact outstanding_held there

/-- Where the sessions that have outstanding polls stay as they are, there is nothing to be booked. -/
theorem entered_of_held (tidy : w'.Tidy)
    (held : ∀ m ∈ w.members, m.outstanding = [] ∨ w'.member? m.key = some m)
    (outstanding : w'.outstanding = w.outstanding) (metrics : w'.metrics = w.metrics) :
    Entered w w' [] := by
  have none := leaves_eq_nil held
  refine ⟨⟨tidy, metrics, ?_⟩, ?_⟩
  · rw [none, outstanding]
    rfl
  · rw [none]
    exact List.forall_mem_nil _

theorem Tidy.of_members (h : w.Tidy) (members : w'.members = w.members) : w'.Tidy :=
  ⟨by rw [members]; exact h.keys, by rw [members]; exact h.orderly⟩

theorem Tidy.entered_of_members (h : w.Tidy) (members : w'.members = w.members)
    (metrics : w'.metrics = w.metrics) : Entered w w' [] := by
  have tidy := h.of_members members
  refine entered_of_held tidy (fun m hm => .inr (tidy.member?_of_mem (members ▸ hm))) ?_ metrics
  rw [outstanding, outstanding, members]

/-- The books are about the sessions and the totals alone. -/
theorem Entered.of_members (h : Entered w w₁ heard) (members : w'.members = w₁.members)
    (metrics : w'.metrics = w₁.metrics) : Entered w w' heard := by
  have same : w.leaves w' = w.leaves w₁ := by
    simp only [leaves, World.cycle?, World.member?, members]
  refine ⟨⟨h.tidy.of_members members, metrics.trans h.metrics, ?_⟩, ?_⟩
  · rw [same, show w'.outstanding = w₁.outstanding by rw [outstanding, outstanding, members]]
    exact h.balance
  · rw [same]
    exact h.left

theorem Booked.trans {told more : List PollEvent} {left lost : List (SessionKey × Nat)}
    (h : Booked w w₁ told left) (h' : Booked w₁ w' more lost) :
    Booked w w' (told ++ more) (left ++ lost) where
  tidy := h'.tidy
  metrics := by rw [h'.metrics, h.metrics, List.foldl_append]
  balance := by
    have first := h.balance
    have second := h'.balance
    rw [List.count_append, List.countP_append, List.length_append]
    omega

section Replaced

variable (now : Among before after m w) (later : Among before after m' w')
include now later

theorem Among.others {y : Member} (hy : y ∈ before ++ after) : y ∈ w.members ∧ y ∈ w'.members := by
  rw [now.members, later.members]
  rcases List.mem_append.1 hy with hy | hy
  · exact ⟨List.mem_append_left _ hy, List.mem_append_left _ hy⟩
  · exact ⟨List.mem_append_right _ (List.mem_cons_of_mem _ hy),
      List.mem_append_right _ (List.mem_cons_of_mem _ hy)⟩

theorem Among.tidy (h : w.Tidy) (key : m'.key = m.key) (orderly : m'.session.Orderly) : w'.Tidy := by
  constructor
  · have keys := h.keys
    rw [now.members] at keys
    rw [later.members]
    simpa [key] using keys
  · intro y hy
    rw [later.members, List.mem_append, List.mem_cons] at hy
    rcases hy with hy | rfl | hy
    · exact h.orderly y (now.others later (List.mem_append_left _ hy)).1
    · exact orderly
    · exact h.orderly y (now.others later (List.mem_append_right _ hy)).1

/-- Only the session that is replaced can leave polls behind. -/
theorem Among.leaves (tidy : w'.Tidy) (key : m'.key = m.key) : w.leaves w' =
    if m.counted then (m.session.leaves m'.session).map fun epoch => (m.key, epoch) else [] := by
  have none {l : List Member} (hl : ∀ y ∈ l, y ∈ before ++ after) :
      (l.flatMap fun y => y.outstanding.filter fun p => (w'.cycle? p.1 p.2).isNone) = [] := by
    rw [List.flatMap_eq_nil_iff]
    exact fun y hy => outstanding_held (tidy.member?_of_mem (now.others later (hl y hy)).2)
  have there : w'.member? m.key = some m' := key ▸ later.member?
  rw [World.leaves, World.outstanding, List.filter_flatMap, now.members, List.flatMap_append,
    List.flatMap_cons, none fun y hy => List.mem_append_left _ hy,
    none fun y hy => List.mem_append_right _ hy, List.nil_append, List.append_nil, Member.outstanding]
  split
  · rw [List.filter_map]
    simp only [Function.comp_def, World.cycle?, there]
    rfl
  · rfl

/-- Where one session is replaced, its own books are those of the listener. -/
theorem Among.entered (h : w.Tidy) (key : m'.key = m.key) (counted : m'.counted = m.counted)
    (orderly : m'.session.Orderly) (accounts : m.session.Accounts m'.session told)
    (metrics : w'.metrics = (m.heard told).foldl Metrics.count w.metrics) :
    Entered w w' (m.heard told) := by
  have tidy := now.tidy later h key orderly
  have left := now.leaves later tidy key
  refine ⟨⟨tidy, metrics, ?_⟩, fun p hp => ?_⟩
  · have balance := accounts.balance
    rw [left, World.outstanding, World.outstanding, now.members, later.members]
    simp only [List.flatMap_append, List.flatMap_cons, List.length_append, Member.outstanding,
      Member.heard, counted]
    split
    · simp only [List.length_map]
      omega
    · rfl
  · rw [left] at hp
    split at hp
    · next heard =>
      obtain ⟨epoch, hepoch, rfl⟩ := List.mem_map.1 hp
      exact ⟨m, now.member?, heard, accounts.left (List.ne_nil_of_mem hepoch)⟩
    · cases hp

end Replaced

/-- Operations of sessions are nothing to be counted. -/
theorem Tidy.entered_settleSession (h : w.Tidy) (there : w.member? key = some m)
    {s : Polling.Session Handler} {effects : List SessionEffect}
    (step : m.session.Step s (effects.map .operation)) :
    Entered w (w.settleSession key s effects) [] := by
  obtain ⟨before, after, now⟩ := h.among there
  obtain rfl := key_of_member? there
  have orderly := h.orderly m (List.mem_of_find?_eq_some there)
  have later := now.settleSession s effects
  have accounts := step.accounts orderly
  rw [Polling.Session.events_operations] at accounts
  have entered := now.entered later h rfl rfl (step.orderly orderly) accounts
    (by rw [m.heard_nil]; exact metrics_settleSession m.key s effects w)
  rwa [m.heard_nil] at entered

theorem Tidy.entered_startSession (h : w.Tidy) (key : SessionKey) :
    Entered w (w.startSession key).1 [] := by
  unfold startSession
  cases there : w.member? key with
  | none => exact h.entered_of_members rfl rfl
  | some m => exact h.entered_settleSession there (m.session.step_start w.now)

theorem Tidy.entered_stopSession (h : w.Tidy) (key : SessionKey) :
    Entered w (w.stopSession key) [] := by
  unfold stopSession
  cases there : w.member? key with
  | none => exact h.entered_of_members rfl rfl
  | some m => exact h.entered_settleSession there .stopped

theorem Tidy.entered_addEndpoint (h : w.Tidy) (key : SessionKey) (e : EndpointConfig) :
    Entered w (w.addEndpoint key e).1 [] := by
  unfold addEndpoint
  cases there : w.member? key with
  | none => exact h.entered_of_members rfl rfl
  | some m => exact h.entered_settleSession there (m.session.step_add _ w.now e)

/-- A step of a cycle: the listener hears what the session tells, and the session may be stopped at
any of it. -/
theorem Tidy.entered_moveCycle (h : w.Tidy) (there : w.member? key = some m) (now epoch : Nat)
    (step : CycleStep) :
    let next := w.moveCycle key fun s => step.take now epoch s
    Entered w next (m.heard ((step.take now epoch m.session).2.filterMap CycleEffect.event?)) := by
  obtain ⟨before, after, stands⟩ := h.among there
  obtain rfl := key_of_member? there
  have orderly := h.orderly m (List.mem_of_find?_eq_some there)
  have moved := step_cycleStep now epoch m.session step
  have accounts := moved.accounts orderly
  have moved := moved.orderly orderly
  rw [List.filterMap_map] at accounts
  have put : Among before after { m with session := (step.take now epoch m.session).1 }
      (w.setSession m.key (step.take now epoch m.session).1) := stands.settleSession _ []
  obtain ⟨m', later, remains, metrics⟩ :=
    put.performCycles m (step.take now epoch m.session).2 rfl
  have next : (w.moveCycle m.key fun s => step.take now epoch s) =
      (step.take now epoch m.session).2.foldl (performCycle m)
        (w.setSession m.key (step.take now epoch m.session).1) := by
    rw [moveCycle, there]
  rw [← next] at later metrics
  rcases remains.session with same | stopped
  · exact stands.entered later h remains.key remains.counted (same ▸ moved) (same ▸ accounts) metrics
  · exact stands.entered later h remains.key remains.counted (stopped ▸ moved.stop)
      (stopped ▸ accounts.stop) metrics

/-- A session under a key that is free has no polls yet. -/
theorem Tidy.entered_addMember (h : w.Tidy) (free : w.member? m.key = none)
    (fresh : m.session = { service := m.session.service }) :
    Entered w (w.addMember m) [] := by
  have new : ∀ y ∈ w.members, y.key ≠ m.key := by
    intro y hy
    simpa using List.find?_eq_none.1 free y hy
  have tidy : (w.addMember m).Tidy := by
    constructor
    · refine nodup_map_concat h.keys fun hmem => ?_
      obtain ⟨y, hy, same⟩ := List.mem_map.1 hmem
      exact new y hy same
    · intro y hy
      rcases List.mem_append.1 hy with hy | hy
      · exact h.orderly y hy
      · obtain rfl := List.mem_singleton.1 hy
        rw [fresh]
        exact Polling.Session.fresh_orderly _
  refine entered_of_held tidy
    (fun y hy => .inr (tidy.member?_of_mem (List.mem_append_left _ hy))) ?_ rfl
  show (w.members ++ [m]).flatMap _ = _
  have none : m.outstanding = [] := by
    unfold Member.outstanding
    rw [fresh]
    split <;> rfl
  rw [List.flatMap_append, List.flatMap_singleton, none, List.append_nil]
  rfl

/-- A session of which no execution of a cycle is under way has no outstanding polls. -/
theorem outstanding_of_idle (idle : hasRequest m = false) : m.outstanding = [] := by
  have none : m.session.announced = [] := by
    rw [Polling.Session.announced, List.map_eq_nil_iff, List.filter_eq_nil_iff]
    intro c hc announced
    have rests := List.any_eq_false.1 idle c hc
    cases stage : c.stage <;> simp [stage, Stage.isAnnounced] at rests announced
  rw [Member.outstanding, none]
  split <;> rfl

/-- Sessions that are let go have no outstanding polls. -/
theorem Tidy.entered_release (h : w.Tidy) (held : SessionKey → Bool) :
    Entered w (w.release held) [] := by
  have gone {m : Member} (out : ¬ (held m.key || hasRequest m) = true) : m.outstanding = [] := by
    rw [Bool.not_eq_true, Bool.or_eq_false_iff] at out
    exact outstanding_of_idle out.2
  have tidy : (w.release held).Tidy :=
    ⟨h.keys.sublist (List.filter_sublist.map _), fun m hm => h.orderly m (List.mem_filter.1 hm).1⟩
  refine entered_of_held tidy (fun m hm => ?_) ?_ rfl
  · by_cases kept : (held m.key || hasRequest m) = true
    · exact .inr (tidy.member?_of_mem (List.mem_filter.2 ⟨hm, kept⟩))
    · exact .inl (gone kept)
  · show (w.members.filter _).flatMap Member.outstanding = w.members.flatMap Member.outstanding
    induction w.members with
    | nil => rfl
    | cons m rest ih =>
      rw [List.filter_cons, List.flatMap_cons]
      split
      · rw [List.flatMap_cons, ih]
      · next out => rw [gone out, ih, List.nil_append]

/-- So it is when those are let go that nobody holds. -/
theorem Tidy.entered_letGo (h : w.Tidy) : Entered w w.letGo [] := by
  refine (h.entered_release w.heldSessions.contains).of_members ?_ rfl
  simp only [letGo, List.partition_eq_filter_filter]
  rfl

/-- As long as no session has been stopped that the listener hears of, each outstanding poll is that of
an endpoint that one of them tracks. -/
theorem Tidy.outstanding_le (h : w.Tidy)
    (live : ∀ m ∈ w.members, m.counted = true → m.session.stopped = false) :
    w.outstanding.length ≤ w.tracked.length := by
  rw [outstanding, tracked, List.length_flatMap, List.length_flatMap]
  refine List.sum_le_sum fun m hm => ?_
  unfold Member.outstanding Member.tracked
  split
  · next counted =>
    rw [List.length_map]
    exact (h.orderly m hm).announced_le (live m hm counted)
  · exact Nat.le_refl 0

/-- The totals of books that begin with nothing. -/
theorem Booked.totals {left : List (SessionKey × Nat)} (h : Booked w w' heard left)
    (fresh : w.metrics = {}) (idle : w.outstanding = []) :
    w'.metrics.requests = w'.metrics.successes + w'.metrics.failures +
        (w'.outstanding.length + left.length).toUInt64 ∧
      w'.metrics.successes = (responses heard).length.toUInt64 ∧
      w'.metrics.responseBytes = (octets (responses heard)).toUInt64 := by
  have metrics := h.metrics
  rw [fresh, Metrics.foldl_count] at metrics
  have balance : heard.count .request =
      (responses heard).length + (errors heard).length + (w'.outstanding.length + left.length) := by
    have balance := h.balance
    rw [countP_outcomes, idle, List.length_nil] at balance
    omega
  rw [metrics, balance]
  simp

end World

namespace Scene

/-- One move, whatever it is. -/
theorem entered_take (h : x.world.Tidy) (mv : Move) :
    x.world.Entered (x.take mv).world (x.heard (.move mv)) := by
  have idle : x.world.Entered x.world [] := h.entered_of_members rfl rfl
  -- sessions come and go by operations, which are not heard of; only a step of a cycle is
  cases mv with
  | launch key service client counted stopOn =>
    simp only [take]
    split
    · exact idle
    · next free => exact h.entered_addMember (by simpa using free) rfl
  | activate | initialise =>
    simp only [take]
    split <;> exact idle
  | begin n =>
    simp only [take]
    split
    · next p _ =>
      unfold begin
      cases p.wholeService with
      | true => exact h.entered_startSession p.session
      | false => exact idle
    · exact idle
  | resume n =>
    simp only [take]
    split
    · next t _ =>
      have metrics := World.metrics_resume t.pass t.endpoint x.world t.phase
      cases hphase : t.phase with
      | admitted r =>
        rw [hphase] at metrics
        exact (h.entered_addEndpoint t.pass.session r.pinned).of_members
          (World.members_admitted t.pass t.endpoint r x.world)
          (metrics.trans (World.metrics_addEndpoint _ _ _).symm)
      | pending | asked | resolved | creating | created | ended =>
        rw [hphase] at metrics
        exact h.entered_of_members (World.members_resume t.pass t.endpoint x.world (by simp)) metrics
    · exact idle
  | start key => exact h.entered_startSession key
  | stop key => exact h.entered_stopSession key
  | track key e => exact h.entered_addEndpoint key e
  | cycle key epoch step =>
    simp only [take, heard]
    cases there : x.world.member? key with
    | none =>
      refine h.entered_of_members ?_ ?_ <;> simp [World.moveCycle, there]
    | some m => exact h.entered_moveCycle there x.world.now epoch step
  | register client r => cases client <;> exact h.entered_of_members rfl rfl
  | script | outcomes | clock => exact h.entered_of_members rfl rfl

/-! ## The books of a history -/

theorem tidy_empty (w : World) : (empty w).world.Tidy :=
  ⟨List.nodup_nil, List.forall_mem_nil _⟩

theorem entered_undergo (h : x.world.Tidy) (i : Incident) :
    x.world.Entered (x.undergo i).world (x.heard i) := by
  cases i with
  | move mv => exact entered_take h mv
  | release held => exact h.entered_release held

/-- Whatever happens, the books are kept. -/
theorem booked_undergoAll (h : x.world.Tidy) (incidents : List Incident) :
    x.world.Booked (x.undergoAll incidents).world (x.account incidents).1 (x.account incidents).2 := by
  induction incidents generalizing x with
  | nil => exact ⟨h, rfl, rfl⟩
  | cons i rest ih =>
    have first := (entered_undergo h i).toBooked
    exact first.trans (ih first.tidy)

/-- A poll that is left behind belongs to a session that had been stopped by then. -/
theorem stopped_of_left (h : x.world.Tidy) (incidents : List Incident) :
    ∀ p ∈ (x.account incidents).2,
      ∃ before, before <+: incidents ∧ (x.undergoAll before).world.HasStopped p.1 := by
  induction incidents generalizing x with
  | nil => exact List.forall_mem_nil _
  | cons i rest ih =>
    intro p hp
    have first := entered_undergo h i
    rcases List.mem_append.1 hp with now | later
    · exact ⟨[], List.nil_prefix, first.left p now⟩
    · obtain ⟨before, hbefore, stopped⟩ := ih first.tidy p later
      exact ⟨i :: before, List.cons_prefix_cons.2 ⟨rfl, hbefore⟩, stopped⟩

/-- Only the steps of cycles are heard of. -/
theorem heard_of_other {i : Incident} (other : i.isCycle = false) : x.heard i = [] := by
  cases i with
  | release held => rfl
  | move mv =>
    cases mv with
    | cycle key epoch step => cases other
    | _ => rfl

/-- The requests that a step of a cycle writes are polls. -/
theorem Writes.purpose {key : SessionKey} {epoch : Nat} {step : CycleStep} {r : Request}
    (writes : x.Writes (.cycle key epoch step) (.requested r)) : r.purpose = .poll := by
  generalize written : Happening.requested r = event at writes
  cases writes with
  | plain _ plain =>
    subst written
    cases plain
  | poll =>
    cases written
    rfl
  | @publication _ _ _ m c handler answer v =>
    unfold Member.publishes at written
    split at written <;> cases written

/-- So no step of a cycle asks for a bring-up. -/
theorem isCycle_of_asksBringUp {i : Incident} (asks : x.AsksBringUp i) : i.isCycle = false := by
  obtain ⟨fresh, now, r, grown, written, purpose⟩ := asks
  cases i with
  | release held => rfl
  | move mv =>
    cases mv with
    | cycle key epoch step =>
      have writes := (x.adds_take (.cycle key epoch step)).all grown _ written
      rw [writes.purpose] at purpose
      cases purpose
    | _ => rfl

/-- The poll metrics balance. Let any number of sessions tell one counting listener of their polls, among
others that do not, in whatever order they are held, started, stopped (also by the listener, at a poll
event) and let go, endpoints are brought up for them or added by hand, and their cycles take their
steps, whatever the answers and the times are. Then in every state that is reached, as far as counters
tell that wrap around at 2^64:

* the requests are the successes, the failures, the polls that are outstanding, and those that were
  outstanding when their cycles ended, which happens to sessions only that have been stopped by then;
* the successes are as many as the responses that were heard of, and the octets are those of their
  bodies;
* as long as no session has been stopped that the listener hears of, no poll is lost: the requests
  beyond successes and failures are the outstanding polls, and these are at most as many as the
  endpoints that are tracked;
* whatever comes next, only a step of a cycle is counted, and nothing is that writes the request of a
  bring-up into the history. -/
theorem poll_metrics_balance (w : World) (incidents : List Incident) :
    let start := empty { w with metrics := {} }
    let x := start.undergoAll incidents
    let heard := (start.account incidents).1
    let lost := (start.account incidents).2
    let total := x.world.metrics
    (total.requests = total.successes + total.failures +
        (x.world.outstanding.length + lost.length).toUInt64 ∧
      ∀ p ∈ lost, ∃ before, before <+: incidents ∧ (start.undergoAll before).world.HasStopped p.1) ∧
    (total.successes = (responses heard).length.toUInt64 ∧
      total.responseBytes = (octets (responses heard)).toUInt64) ∧
    ((∀ before, before <+: incidents → ∀ m ∈ (start.undergoAll before).world.members,
        m.counted = true → m.session.stopped = false) →
      lost = [] ∧
      total.requests - total.successes - total.failures = x.world.outstanding.length.toUInt64 ∧
      x.world.outstanding.length ≤ x.world.tracked.length) ∧
    ∀ i, i.isCycle = false ∨ x.AsksBringUp i → (x.undergo i).world.metrics = total := by
  intro start x heard lost total
  have tidy : start.world.Tidy := tidy_empty _
  have booked : start.world.Booked x.world heard lost := booked_undergoAll tidy incidents
  have stopped := stopped_of_left tidy incidents
  obtain ⟨requests, successes, bytes⟩ := booked.totals rfl rfl
  refine ⟨⟨requests, stopped⟩, ⟨successes, bytes⟩, fun live => ?_, fun i other => ?_⟩
  · have none : lost = [] := by
      rw [List.eq_nil_iff_forall_not_mem]
      intro p hp
      obtain ⟨before, hbefore, m, there, counted, ended⟩ := stopped p hp
      rw [live before hbefore m (List.mem_of_find?_eq_some there) counted] at ended
      cases ended
    refine ⟨none, ?_, booked.tidy.outstanding_le (live incidents (List.prefix_refl _))⟩
    rw [none, List.length_nil, Nat.add_zero] at requests
    rw [requests]
    grind
  · have other : i.isCycle = false := by
      rcases other with other | asks
      · exact other
      · exact isCycle_of_asksBringUp asks
    have counted := (entered_undergo booked.tidy i).metrics
    rwa [heard_of_other other] at counted

/-- The key of another session. -/
def otherKey : SessionKey :=
  ⟨.manager, 1⟩

/-- Two sessions poll three endpoints: one poll has succeeded and two are outstanding; then more
happens. -/
def polling (later : List Incident) : List Incident :=
  let quotes := Fixtures.endpoint "quotes" .json
  let news := Fixtures.endpoint "news" .json
  let one : Answer := .ok { status := 200, headers := [], body := Text.Utf8.encode "1" }
  let service := Fixtures.service "rates" 1000 [quotes, news]
  let registry := (Registry.empty.add { closesReplaced := false, activates := true } service).1
  let begins : List Move :=
    [.register .standIn registry, .launch ratesKey service .standIn true none,
      .launch otherKey service .standIn true none, .track ratesKey quotes, .track ratesKey news,
      .track otherKey quotes, .start ratesKey, .start otherKey]
  let polls : List Move :=
    [.cycle ratesKey 0 .prepare, .cycle ratesKey 1 .prepare, .cycle otherKey 0 .prepare,
      .cycle ratesKey 0 (.send 0 one), .cycle otherKey 0 (.send 0 one), .cycle ratesKey 0 .receive,
      .cycle ratesKey 0 .conclude]
  (begins ++ polls).map .move ++ later

/-- Two of three polls are outstanding. -/
theorem poll_metrics_balance_outstanding :
    let x := (empty ratesWorld).undergoAll (polling [])
    (x.world.metrics = { requests := 3, successes := 1, failures := 0, responseBytes := 1 } ∧
      x.world.outstanding = [(ratesKey, 1), (otherKey, 0)] ∧ x.world.tracked.length = 3) ∧
    x.world.metrics.requests - x.world.metrics.successes - x.world.metrics.failures =
      x.world.outstanding.length.toUInt64 ∧
    x.world.outstanding.length ≤ x.world.tracked.length := by
  intro x
  have live : ∀ before ∈ (polling []).inits, ∀ m ∈ ((empty ratesWorld).undergoAll before).world.members,
      m.counted = true → m.session.stopped = false := by decide +kernel
  obtain ⟨-, -, balance, -⟩ := poll_metrics_balance ratesWorld (polling [])
  exact ⟨by decide +kernel, (balance fun before h => live before ((List.mem_inits _ _).2 h)).2⟩

/-- A session that is stopped loses its outstanding poll if the cycle is dropped first, and is let go
then; if the answer is taken first, the poll has failed. -/
example :
    let stop : Incident := .move (.stop otherKey)
    let lost := (empty ratesWorld).undergoAll
      (polling [stop, .move (.cycle otherKey 0 .drop), .release fun _ => false])
    let refused := (empty ratesWorld).undergoAll
      (polling [stop, .move (.cycle otherKey 0 .receive)])
    lost.world.metrics = { requests := 3, successes := 1, failures := 0, responseBytes := 1 } ∧
      lost.world.outstanding = [(ratesKey, 1)] ∧ lost.world.tracked.length = 2 ∧
      refused.world.metrics = { requests := 3, successes := 1, failures := 1, responseBytes := 1 } ∧
      refused.world.outstanding = [(ratesKey, 1)] := by
  decide +kernel

end Scene

end TopicRelay.Simulation
