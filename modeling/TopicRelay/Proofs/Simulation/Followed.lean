/-
An endpoint that is polled, and the world around it. What is followed is one endpoint of one session:
from the instant at which its polling begins, its polls play a score, its cycle rests or waits for an
answer, and a task stands for the instant at which that is over. `Fine` says so, together with the order
of the world on which it rests: sessions are told apart by their keys, which are never given again, and
tasks by their numbers.

Much of what is done in the world is told only to the history, to update sources and to new tasks. That
is quiet, and leaves the world fine.
-/
import TopicRelay.Proofs.Polling.Schedule
import TopicRelay.Proofs.Simulation.Sections
import TopicRelay.Proofs.Time.FixedDelay
import TopicRelay.Proofs.Time.Standing
import TopicRelay.Simulation.Command

namespace TopicRelay.Simulation

open TopicRelay.Broker TopicRelay.Config TopicRelay.Content TopicRelay.Control
open TopicRelay.Polling TopicRelay.Publication TopicRelay.Time

/-! ## What is followed -/

/-- Whether a request polls an endpoint for a session. -/
def Request.isPoll (key : SessionKey) (name : String) (r : Request) : Bool :=
  r.session == key && r.purpose == .poll && r.endpoint == name

/-- The begin or the end of a poll, if that is what happened. -/
def pollBeat? (key : SessionKey) (name : String) : Nat × Happening → Option Beat
  | (t, .requested r) => if r.isPoll key name then some (.started t) else none
  | (t, .answered r) => if r.isPoll key name then some (.ended t) else none
  | _ => none

/-- The polls of an endpoint by a session, in order. -/
def History.polls (key : SessionKey) (name : String) (h : History) : List Beat :=
  h.reverse.filterMap (pollBeat? key name)

/-- What the cycle of a session waits for between its turns. -/
def pauseOf : Stage → Option Pause
  | .resting due => some (.resting due)
  | .requesting due _ => some (.working due)
  | .prepared | .answered _ => none

/-- An endpoint of a session that is followed from the begin of its polling on. -/
structure Focus where
  key : SessionKey
  name : String
  origin : Nat
  /-- The polls that have been seen before. -/
  before : List Beat := []
  /-- Whether the polling is known to have begun. -/
  begun : Bool := false

/-- The polls of the endpoint. -/
def Focus.polls (f : Focus) (w : World) : List Beat :=
  w.history.polls f.key f.name

/-- What is under way: the endpoint that is followed, the sessions that are about to be held, and the
task whose turn it is. -/
structure Scope where
  focus : Option Focus := none
  pending : List SessionKey := []
  running : Option Nat := none

namespace World

/-- A key that has been given to a session. -/
def Counted (key : SessionKey) (w : World) : Prop :=
  match key.owner with
  | .named => key.number < w.namedCount
  | .manager => key.number < w.managerOrNew.nextNumber
  | .lifecycle => ∀ l ∈ w.lifecycle, key.number < l.services.nextNumber

end World

/-- The order of a world. -/
structure Sane (x : Scope) (w : World) : Prop where
  keys : (w.members.map (·.key) ++ x.pending).Nodup
  counted : ∀ key ∈ w.members.map (·.key) ++ x.pending, w.Counted key
  orderly : ∀ m ∈ w.members, m.session.Orderly
  manages : w.managerOrNew.owner = .manager
  governs : ∀ l ∈ w.lifecycle, l.services.owner = .lifecycle
  numbered : w.agenda.Numbered
  running : ∀ id ∈ x.running, id < w.agenda.nextId

/-- The endpoint is polled by the cycle of a session, for which a task stands whose turn it is not. -/
structure Keeps (f : Focus) (x : Scope) (m : Member) (c : Cycle) (t : Time.Task Work) (p : Pause) (w : World) : Prop where
  member : w.member? f.key = some m
  live : m.session.stopped = false
  cycle : c ∈ m.session.cycles
  name : c.endpoint.name = f.name
  pause : pauseOf c.stage = some p
  clock : w.now ≤ p.due
  plays : ∃ d n beats, f.polls w = f.before ++ beats ∧
    Scored f.origin m.session.period d n p beats
  work : t.work = Work.cycle f.key c.epoch
  active : t.aborted = false
  apart : x.running ≠ some t.id
  stands : w.agenda.Stands t w.now p.due

/-- A session that has come to its end, or that nobody holds any more. -/
structure Gone (key : SessionKey) (x : Scope) (w : World) : Prop where
  counted : w.Counted key
  absent : key ∉ x.pending
  ended : ∀ m, w.member? key = some m → m.session.stopped = true

/-- How it stands with the endpoint that is followed. -/
inductive Follows (f : Focus) (x : Scope) (w : World) : Prop
  /-- Its polling is to begin now, if it does. -/
  | latent (idle : f.begun = false) (clock : w.now = f.origin) (polls : f.polls w = f.before)
      (unpolled : ∀ m, w.member? f.key = some m → ∀ c ∈ m.session.cycles, c.endpoint.name ≠ f.name)
  | kept {m : Member} {c : Cycle} {t : Time.Task Work} {p : Pause} (keeps : Keeps f x m c t p w)
  | ended (gone : Gone f.key x w)

/-- A world in order, in which the endpoint that is followed is polled on time. -/
structure Fine (x : Scope) (w : World) : Prop where
  sane : Sane x w
  follows : ∀ f ∈ x.focus, Follows f x w

variable {x : Scope} {w w' w₁ w₂ : World} {f : Focus} {key : SessionKey} {m : Member}
  {s s' : Polling.Session Handler} {t : Time.Task Work} {p : Pause}

theorem Sane.member?_of_mem (h : Sane x w) (hm : m ∈ w.members) : w.member? m.key = some m := by
  have distinct : (w.members.map fun m => m.key).Nodup := (List.nodup_append.1 h.keys).1
  exact find?_of_nodup_map distinct hm

theorem mem_of_member? (there : w.member? key = some m) : m ∈ w.members :=
  List.mem_of_find?_eq_some there

/-- A session that is held and has been stopped is gone. -/
theorem Sane.gone (h : Sane x w) (there : w.member? key = some m) (w' : World)
    (counted : w.Counted key → w'.Counted key)
    (ended : ∀ m, w'.member? key = some m → m.session.stopped = true) : Gone key x w' := by
  have hkey : key ∈ w.members.map (·.key) :=
    List.mem_map.2 ⟨m, mem_of_member? there, World.key_of_member? there⟩
  refine ⟨counted (h.counted key (List.mem_append_left _ hkey)), fun hpending => ?_, ended⟩
  exact (List.nodup_append.1 h.keys).2.2 key hkey key hpending rfl

theorem Gone.not_live (h : Gone key x w) (there : w.member? key = some m) : m.session.stopped ≠ false := by
  rw [h.ended m there]
  exact Bool.noConfusion

/-! ## What makes no difference -/

/-- Nothing happens to sessions, keys and the clock, and no task that is there is touched. -/
structure Aside (w w' : World) : Prop where
  now : w'.now = w.now
  members : w'.members = w.members
  lifecycle : w'.lifecycle = w.lifecycle
  manager : w'.manager = w.manager
  named : w'.namedCount = w.namedCount
  agenda : ∃ works, w'.agenda = w.agenda.spawnAll works

/-- Nor is anything polled. -/
structure Quiet (w w' : World) : Prop extends Aside w w' where
  polls : ∀ key name, w'.history.polls key name = w.history.polls key name

theorem Aside.refl (w : World) : Aside w w :=
  ⟨rfl, rfl, rfl, rfl, rfl, [], rfl⟩

theorem Aside.trans (h : Aside w w₁) (h' : Aside w₁ w₂) : Aside w w₂ where
  now := h'.now.trans h.now
  members := h'.members.trans h.members
  lifecycle := h'.lifecycle.trans h.lifecycle
  manager := h'.manager.trans h.manager
  named := h'.named.trans h.named
  agenda := by
    obtain ⟨works, first⟩ := h.agenda
    obtain ⟨more, second⟩ := h'.agenda
    exact ⟨works ++ more, by rw [second, first, Agenda.spawnAll_append]⟩

theorem Quiet.refl (w : World) : Quiet w w :=
  ⟨.refl w, fun _ _ => rfl⟩

theorem Quiet.trans (h : Quiet w w₁) (h' : Quiet w₁ w₂) : Quiet w w₂ :=
  ⟨h.toAside.trans h'.toAside, fun key name => (h'.polls key name).trans (h.polls key name)⟩

theorem Aside.member? (h : Aside w w') (key : SessionKey) : w'.member? key = w.member? key := by
  unfold World.member?
  rw [h.members]

theorem Aside.counted (h : Aside w w') (counted : w.Counted key) : w'.Counted key := by
  unfold World.Counted World.managerOrNew at *
  rwa [h.lifecycle, h.manager, h.named]

theorem Sane.aside (h : Sane x w) (aside : Aside w w') : Sane x w' := by
  obtain ⟨works, agenda⟩ := aside.agenda
  refine ⟨?_, ?_, ?_, ?_, ?_, ?_, ?_⟩
  · rw [aside.members]
    exact h.keys
  · rw [aside.members]
    exact fun key hkey => aside.counted (h.counted key hkey)
  · rw [aside.members]
    exact h.orderly
  · show (w'.manager.getD _).owner = _
    rw [aside.manager]
    exact h.manages
  · rw [aside.lifecycle]
    exact h.governs
  · rw [agenda]
    exact h.numbered.spawnAll works
  · rw [agenda]
    exact fun id hid => Nat.lt_of_lt_of_le (h.running id hid) (Agenda.nextId_le_spawnAll works _)

theorem Gone.aside (h : Gone key x w) (aside : Aside w w') : Gone key x w' :=
  ⟨aside.counted h.counted, h.absent, fun m hm => h.ended m (aside.member? key ▸ hm)⟩

/-- What does not happen to the session makes no difference to its endpoint. -/
theorem Follows.carry (h : Follows f x w) (member : w'.member? f.key = w.member? f.key)
    (polls : f.polls w' = f.polls w) (now : w'.now = w.now)
    (counted : w.Counted f.key → w'.Counted f.key)
    (agenda : ∃ works, w'.agenda = w.agenda.spawnAll works) : Follows f x w' := by
  obtain ⟨works, agenda⟩ := agenda
  cases h with
  | latent idle clock seen unpolled =>
    exact .latent idle (now.trans clock) (polls.trans seen) fun m hm => unpolled m (member ▸ hm)
  | kept keeps =>
    exact .kept { keeps with
      member := member.trans keeps.member
      clock := now ▸ keeps.clock
      plays := by rw [polls]; exact keeps.plays
      stands := by rw [agenda, now]; exact keeps.stands.spawnAll works }
  | ended gone => exact .ended ⟨counted gone.counted, gone.absent, fun m hm => gone.ended m (member ▸ hm)⟩

/-- Polls of the endpoint that is followed are left out, unless its session is gone. -/
theorem Fine.aside (h : Fine x w) (aside : Aside w w')
    (polls : ∀ f ∈ x.focus, Gone f.key x w ∨ f.polls w' = f.polls w) : Fine x w' := by
  refine ⟨h.sane.aside aside, fun f hf => ?_⟩
  rcases polls f hf with gone | same
  · exact .ended (gone.aside aside)
  · exact (h.follows f hf).carry (aside.member? f.key) same aside.now aside.counted aside.agenda

theorem Fine.quiet (h : Fine x w) (quiet : Quiet w w') : Fine x w' :=
  h.aside quiet.toAside fun f _ => .inr (quiet.polls f.key f.name)

/-- In a world that is fine, one may stop following. -/
theorem Fine.unfollow (h : Fine x w) : Fine { x with focus := none } w :=
  ⟨⟨h.sane.keys, h.sane.counted, h.sane.orderly, h.sane.manages, h.sane.governs, h.sane.numbered,
    h.sane.running⟩, nofun⟩

/-! ## Quiet operations -/

theorem polls_record (h : Happening) (w : World) (key : SessionKey) (name : String) :
    (w.record h).history.polls key name =
      w.history.polls key name ++ (pollBeat? key name (w.now, h)).toList := by
  simp only [World.record, History.polls, List.reverse_cons, List.filterMap_append]
  cases hb : pollBeat? key name (w.now, h) <;> simp [hb]

theorem quiet_record {h : Happening} (silent : ∀ key name, pollBeat? key name (w.now, h) = none) :
    Quiet w (w.record h) :=
  ⟨⟨rfl, rfl, rfl, rfl, rfl, [], rfl⟩, fun key name => by
    rw [polls_record, silent, Option.toList_none, List.append_nil]⟩

theorem quiet_say (e : Log.Entry) (w : World) : Quiet w (w.say e) :=
  quiet_record fun _ _ => rfl

/-- A request to bring an endpoint up is no poll. -/
theorem pollBeat?_bringUp (p : Pass) (e : EndpointConfig) (key : SessionKey) (name : String) (t : Nat) :
    pollBeat? key name (t, .requested (World.bringUpRequest p e)) = none ∧
      pollBeat? key name (t, .answered (World.bringUpRequest p e)) = none := by
  simp [pollBeat?, Request.isPoll, World.bringUpRequest]

namespace Quiet

theorem say (h : Quiet w w') (e : Log.Entry) : Quiet w (w'.say e) :=
  h.trans (quiet_say e w')

theorem withEndpoints (h : Quiet w w') (endpoints : Endpoints) : Quiet w { w' with endpoints } :=
  ⟨⟨h.now, h.members, h.lifecycle, h.manager, h.named, h.agenda⟩, h.polls⟩

theorem withBroker (h : Quiet w w') (broker : StandInBroker) : Quiet w { w' with broker } :=
  ⟨⟨h.now, h.members, h.lifecycle, h.manager, h.named, h.agenda⟩, h.polls⟩

theorem withMetrics (h : Quiet w w') (metrics : Metrics) : Quiet w { w' with metrics } :=
  ⟨⟨h.now, h.members, h.lifecycle, h.manager, h.named, h.agenda⟩, h.polls⟩

end Quiet

/-- New work is no disturbance. -/
theorem quiet_spawn (work : Work) (w : World) :
    Quiet w { w with agenda := w.agenda.spawn work } :=
  ⟨⟨rfl, rfl, rfl, rfl, rfl, [work], rfl⟩, fun _ _ => rfl⟩

theorem quiet_setRegistry (c : Client) (r : Registry Hook) (w : World) :
    Quiet w (w.setRegistry c r) := by
  cases c <;> exact ⟨⟨rfl, rfl, rfl, rfl, rfl, [], rfl⟩, fun _ _ => rfl⟩

theorem quiet_notify (h : Hook) (w : World) : Quiet w (w.notify h) := by
  unfold World.notify
  split
  · exact quiet_record fun _ _ => rfl
  · exact .refl w

theorem quiet_runHook (h : Hook) (w : World) : Quiet w (w.runHook h) := by
  unfold World.runHook
  split
  · exact (quiet_say _ w).trans (quiet_notify h _)
  · exact (quiet_say _ w).trans (quiet_notify h _)
  · exact ((quiet_say _ w).trans (quiet_notify h _)).trans (quiet_spawn _ _)

theorem quiet_heed : ∀ (told : List (Notice Hook)) (w : World), Quiet w (w.heed told)
  | [], w => .refl w
  | .moved _ _ :: rest, w => (quiet_say _ w).trans (quiet_heed rest _)
  | .ran h :: rest, w => (quiet_runHook h w).trans (quiet_heed rest _)

/-- What is done with sources is told to hooks. -/
theorem quiet_sources (c : Client) (r : Registry Hook) (told : List (Notice Hook)) (w : World) :
    Quiet w ((w.setRegistry c r).heed told) :=
  (quiet_setRegistry c r w).trans (quiet_heed told _)

theorem quiet_removeService (c : Client) (s : ServiceConfig) (w : World) :
    Quiet w (w.removeService c s).1 := by
  cases c with
  | standIn =>
    have asked : Quiet w (w.record (.removalAsked s.name)) := quiet_record fun _ _ => rfl
    exact asked.trans (quiet_sources .standIn _ _ _)
  | logOnly n =>
    have removed := quiet_sources (.logOnly n) ((w.registry (.logOnly n)).remove s.name).1
      ((w.registry (.logOnly n)).remove s.name).2.1 w
    simp only [World.removeService]
    generalize (w.registry (.logOnly n)).remove s.name = out at removed ⊢
    obtain ⟨reg, told, _ | _⟩ := out
    · exact removed
    · exact removed.say _

theorem quiet_announce (c : Client) (s : ServiceConfig) (w : World) : Quiet w (w.announce c s) := by
  cases c with
  | standIn => exact quiet_record fun _ _ => rfl
  | logOnly n => exact quiet_say _ w

theorem quiet_createTopic (c : Client) (session : SessionKey) (s : ServiceConfig) (r : Resolved)
    (w : World) : Quiet w (w.createTopic c session s r).1 := by
  cases c with
  | standIn => exact quiet_record fun _ _ => rfl
  | logOnly n => exact quiet_say _ w

theorem quiet_publish (c : Client) (session : Option SessionKey) (t : Target) (v : TopicValue)
    (w : World) : Quiet w (w.publish c session t v).1 := by
  unfold World.publish
  split
  · exact .refl w
  · cases c with
    | standIn => exact quiet_record fun _ _ => rfl
    | logOnly n => exact quiet_say _ w

theorem quiet_handle (m : Member) (h : Handler) (answer : Answer) (w : World) :
    Quiet w (w.handle m h answer) := by
  unfold World.handle
  split
  · exact quiet_say _ w
  · next v _ =>
    have published := quiet_publish m.client (some m.key) h.target v w
    dsimp only
    split <;> exact published.say _

theorem quiet_closeBroker (s : Broker.Session) (w : World) : Quiet w (w.closeBroker s) := by
  unfold World.closeBroker
  split
  · exact (Quiet.refl w).withBroker _
  · exact (quiet_sources _ _ _ w).say _

theorem quiet_endBringUp (p : Pass) (e : EndpointConfig) (result : Except InitialisationError PayloadKind)
    (w : World) : Quiet w (w.endBringUp p e result).1 := by
  unfold World.endBringUp
  dsimp only
  split
  · exact quiet_say _ w
  · exact (quiet_say _ w).trans (quiet_record fun _ _ => rfl)

end TopicRelay.Simulation
