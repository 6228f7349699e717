/-
Bring-ups of a service that runs, as one of its endpoints sees them. Each part of a pass goes on for
its own endpoint only, and so does a turn of the whole pass: what it comes to for the endpoint is what
the part of the endpoint comes to.
-/
import TopicRelay.Proofs.Simulation.Shows

namespace TopicRelay.Simulation

open TopicRelay.Broker TopicRelay.Config TopicRelay.Content TopicRelay.Control
open TopicRelay.Polling TopicRelay.Publication TopicRelay.Time

variable {s : ServiceConfig} {e : EndpointConfig} {own : Option Nat}
  {ses ses' : Polling.Session Handler} {w w₁ w₂ : World} {v : Solo}

/-! ## Bring-ups -/

/-- A pass over the service. -/
structure Pass.Serves (s : ServiceConfig) (p : Pass) : Prop where
  service : p.service = s
  session : p.session = soloKey
  client : p.client = .standIn
  whole : p.wholeService = true

variable {p : Pass} {x : EndpointConfig} {r : Resolved} {v' : Solo}

theorem alike_endBringUp (serves : p.Serves s) (result : Except InitialisationError PayloadKind)
    (w : World) : Alike s e w (w.endBringUp p x result).1 := by
  have silent : (bringUpEnded p.service x result).event ≠ "poll_publish_ok" := by
    unfold bringUpEnded
    split <;> simp [bringUpEntry]
  unfold World.endBringUp
  rw [serves.whole]
  exact alike_say silent w

/-- What a part of a turn does for an endpoint: it shows what it comes to for the endpoint of the solo. -/
def Shows.Comes (s : ServiceConfig) (e : EndpointConfig) (w w' : World) (v' : Solo) : Prop :=
  ∃ own ses, Shows s e own ses w' v' ∧ ses.running = true ∧ Onward w w'

theorem Shows.Comes.alike (h : Shows.Comes s e w w₁ v) (alike : Alike s e w₁ w₂) :
    Shows.Comes s e w w₂ v := by
  obtain ⟨own, ses, shows, running, onward⟩ := h
  exact ⟨own, ses, shows.alike alike, running, onward.trans alike.onward⟩

/-- What is done for an endpoint of some name comes to something for the endpoint of the solo if it has
that name, for which the clock is right then, and to nothing otherwise. -/
def Solo.Takes (e : EndpointConfig) (name : String) (now : Nat) (own : Solo → Solo) (v v' : Solo) :
    Prop :=
  name = e.name ∧ v.now = now ∧ v' = own v ∨ name ≠ e.name ∧ v' = v

theorem Shows.trackResolved (h : Shows s e own ses w v) (running : ses.running = true)
    (serves : p.Serves s) (takes : Solo.Takes e r.pinned.name w.now (Solo.track s r) v v') :
    Shows.Comes s e w (w.trackResolved p r).1 v' := by
  obtain ⟨rfl, hkey, hclient, whole⟩ := serves
  have registered : (w.registry p.client).isRegistered p.service.name = true := by
    have bound := congrFun (h.bind r.pinned) r.kind
    rw [hclient]
    unfold World.bind at bound
    split at bound
    · next registered => exact registered
    · cases bound
  have world : (w.trackResolved p r).1 = (w.addEndpoint soloKey r.pinned).1 := by
    unfold World.trackResolved
    rw [if_pos registered, hkey]
    dsimp only
    split <;> rfl
  rw [world]
  rcases takes with ⟨named, clock, rfl⟩ | ⟨other, rfl⟩
  · exact h.addEndpoint_own running clock named
  · obtain ⟨ses', shows, rest⟩ := h.addEndpoint_other running other
    exact ⟨own, ses', shows, rest⟩

theorem Shows.takeCreation (h : Shows s e own ses w v) (running : ses.running = true)
    (serves : p.Serves s) (outcome : Except TopicCreationError TopicCreation)
    (takes : Solo.Takes e r.pinned.name w.now (fun v =>
      match outcome with
      | .error _ => v
      | .ok _ => v.track s r) v v') :
    Shows.Comes s e w (w.takeCreation p x r outcome).1 v' := by
  match outcome with
  | .error err =>
    have same : v' = v := by
      rcases takes with ⟨-, -, hv⟩ | ⟨-, hv⟩ <;> exact hv
    exact ⟨own, ses, same ▸ h, running, Onward.refl w⟩
  | .ok .created => exact h.trackResolved running serves takes
  | .ok .alreadyExists =>
    have silent : Alike s e w (w.say (topicExists p.service x)) :=
      alike_say (by simp [topicExists, bringUpEntry]) w
    obtain ⟨own', ses', shows, running', onward⟩ :=
      (h.alike silent).trackResolved running serves takes
    exact ⟨own', ses', shows, running', silent.onward.trans onward⟩

theorem Shows.bindResolved (h : Shows s e own ses w v) (running : ses.running = true)
    (serves : p.Serves s) (takes : Solo.Takes e r.pinned.name w.now (Solo.ask s r) v v') :
    Shows.Comes s e w (w.bindResolved p x r).1 v' := by
  have stopped : w.isStopped p.session = false := by
    rw [serves.session]
    exact h.isStopped
  have world : w.bindResolved p x r =
      (w.record (.topicAsked (soloTopic s r))).takeCreation p x r
        (w.broker.outcome r.pinned.name) := by
    unfold World.bindResolved
    rw [if_neg (by simp [stopped]), serves.client, serves.session, serves.service]
    rfl
  have asked := onward_record (.topicAsked (soloTopic s r)) w
  rw [world]
  rcases takes with ⟨named, clock, rfl⟩ | ⟨other, rfl⟩
  · have told := h.tell clock (concerning_topicAsked (q := soloTopic s r) rfl named w.now w.history)
    have outcome : w.broker.outcome r.pinned.name = v.outcome := by
      rw [named]
      exact h.outcome
    obtain ⟨own', ses', shows, running', onward⟩ := told.takeCreation (x := x) running serves
      (w.broker.outcome r.pinned.name) (.inl ⟨named, clock, by rw [outcome]⟩)
    exact ⟨own', ses', shows, running', asked.trans onward⟩
  · have silent := alike_record (s := s) (e := e) (h := .topicAsked (soloTopic s r))
      (by simp [Happening.passes, soloTopic, other]) w
    obtain ⟨own', ses', shows, running', onward⟩ := (h.alike silent).takeCreation (x := x) running
      serves (w.broker.outcome r.pinned.name) (.inr ⟨other, rfl⟩)
    exact ⟨own', ses', shows, running', asked.trans onward⟩

theorem name_of_resolveAnswer {a : Answer} (h : resolveAnswer x a = .ok r) :
    r.pinned.name = x.name := by
  unfold resolveAnswer at h
  split at h
  · cases h
  · split at h
    · cases h
    · split at h
      · cases h
      · cases h
        rfl

/-- The first answer of a bring-up is taken. -/
theorem Shows.concludeBringUp (h : Shows s e own ses w v) (running : ses.running = true)
    (serves : p.Serves s) (a : Answer)
    (distinct : x.name = e.name → x = e)
    (takes : Solo.Takes e x.name w.now (Solo.conclude s e a) v v') :
    ∃ w' result, w.concludeBringUp p x a = (w', .done result) ∧ Shows.Comes s e w w' v' := by
  have answered : Alike s e w (w.answered p x) := alike_answered p x w
  cases settled : resolveAnswer x a with
  | error err =>
    have world := concludeBringUp_of_error w p settled
    have same : v' = v := by
      rcases takes with ⟨same, -, hv⟩ | ⟨-, hv⟩
      · rw [hv, Solo.conclude, ← distinct same, settled]
      · exact hv
    have ended := answered.trans (alike_endBringUp (x := x) serves (.error err) (w.answered p x))
    exact ⟨_, _, world, own, ses, same ▸ h.alike ended, running, ended.onward⟩
  | ok r =>
    have world := concludeBringUp_of_ok w p settled
    have named := name_of_resolveAnswer settled
    have takes' : Solo.Takes e r.pinned.name (w.answered p x).now (Solo.ask s r) v v' := by
      rcases takes with ⟨same, clock, hv⟩ | ⟨other, hv⟩
      · exact .inl ⟨named.trans same, clock, by rw [hv, Solo.conclude, ← distinct same, settled]⟩
      · exact .inr ⟨by rw [named]; exact other, hv⟩
    obtain ⟨own', ses', shows, running', onward⟩ :=
      (h.alike answered).bindResolved (x := x) running serves takes'
    have comes : Shows.Comes s e w ((w.answered p x).bindResolved p x r).1 v' :=
      ⟨own', ses', shows, running', answered.onward.trans onward⟩
    exact ⟨_, _, world, comes.alike (alike_endBringUp serves _ _)⟩

/-- How a bring-up goes on in a turn at some instant. -/
inductive Progress.Goes (now : Nat) : Progress → Progress → Prop
  | asked {due : Nat} {a : Answer} (late : now < due) : Goes now .pending (.requesting due a)
  | ended (result : Except InitialisationError PayloadKind) : Goes now .pending (.done result)
  | waits {due : Nat} {a : Answer} (late : now < due) :
      Goes now (.requesting due a) (.requesting due a)
  | answered {due : Nat} {a : Answer} (reached : due ≤ now)
      (result : Except InitialisationError PayloadKind) : Goes now (.requesting due a) (.done result)
  | stays (result : Except InitialisationError PayloadKind) : Goes now (.done result) (.done result)

/-- A bring-up begins. -/
theorem Shows.beginBringUp (h : Shows s e own ses w v) (running : ses.running = true)
    (serves : p.Serves s) (distinct : x.name = e.name → x = e)
    (clock : x.name = e.name → v.now = w.now) :
    ∃ w' after v', w.beginBringUp p x = (w', after) ∧ Shows.Comes s e w w' v' ∧
      Progress.Goes w.now .pending after ∧
      if x.name = e.name then v.Attends s e w.now (some (0, .begin)) v' after.wants else v' = v := by
  have said : Alike s e w (w.say (bringUpStarted p.service x)) :=
    alike_say (by simp [bringUpStarted, bringUpEntry]) w
  have stopped : (w.say (bringUpStarted p.service x)).isStopped p.session = false := by
    rw [serves.session]
    exact (h.alike said).isStopped
  have request : World.bringUpRequest p x =
      { session := soloKey, purpose := .bringUp, service := s.name, endpoint := x.name } := by
    rw [World.bringUpRequest, serves.session, serves.service]
  generalize hw₀ : w.say (bringUpStarted p.service x) = w₀ at said stopped
  have begun : w.beginBringUp p x =
      if (w₀.endpoints.script x.name).delay = 0 then
        (w₀.asked .bringUp s x).concludeBringUp p x ((w₀.endpoints.script x.name).answer x.name)
      else (w₀.asked .bringUp s x, .requesting (w.now + (w₀.endpoints.script x.name).delay)
        ((w₀.endpoints.script x.name).answer x.name)) := by
    unfold World.beginBringUp
    rw [hw₀, if_neg (by simp [stopped]), request]
    rw [← said.now]
    rfl
  have h₀ := h.alike said
  by_cases own' : x.name = e.name
  · obtain rfl := distinct own'
    have clock₀ : v.now = w₀.now := (clock rfl).trans said.now.symm
    have asked := h₀.asked clock₀ .bringUp
    rw [h₀.answer, h₀.delay] at begun
    have onward := said.onward.trans (still_asked .bringUp s x w₀).onward
    by_cases prompt : v.delay = 0
    · rw [if_pos prompt] at begun
      obtain ⟨w', result, world, own', ses', shows, running', onward'⟩ :=
        asked.concludeBringUp running serves (v.answer x) distinct (.inl ⟨rfl, clock₀, rfl⟩)
      refine ⟨w', _, _, begun.trans world, ⟨own', ses', shows, running', onward.trans onward'⟩,
        .ended result, ?_⟩
      rw [if_pos rfl]
      refine ⟨?_, by simp [Progress.wants]⟩
      simp [Solo.perform, Solo.begin, prompt, Progress.wants]
    · rw [if_neg prompt] at begun
      refine ⟨_, _, _, begun, ⟨own, ses, asked, running, onward⟩, .asked (by omega), ?_⟩
      rw [if_pos rfl]
      refine ⟨?_, by simp [Progress.wants]; omega⟩
      simp [Solo.perform, Solo.begin, prompt, Progress.wants, Solo.await, clock rfl]
  · have asked := said.trans (alike_asked .bringUp own' w₀)
    by_cases prompt : (w₀.endpoints.script x.name).delay = 0
    · rw [if_pos prompt] at begun
      obtain ⟨w', result, world, own₁, ses₁, shows, running', onward'⟩ :=
        (h.alike asked).concludeBringUp running serves _ distinct (.inr ⟨own', rfl⟩)
      exact ⟨w', _, v, begun.trans world, ⟨own₁, ses₁, shows, running', asked.onward.trans onward'⟩,
        .ended result, by rw [if_neg own']⟩
    · rw [if_neg prompt] at begun
      exact ⟨_, _, v, begun, ⟨own, ses, h.alike asked, running, asked.onward⟩, .asked (by omega),
        by rw [if_neg own']⟩

/-- A bring-up goes on. -/
theorem Shows.turnBringUp (h : Shows s e own ses w v) (running : ses.running = true)
    (serves : p.Serves s) (distinct : x.name = e.name → x = e) (progress : Progress)
    (clock : x.name = e.name → Agenda.readyJob w.now progress.wants ≠ none → v.now = w.now) :
    ∃ w' after v', w.turnBringUp p x progress = (w', after) ∧ Shows.Comes s e w w' v' ∧
      progress.Goes w.now after ∧
      if x.name = e.name then v.Attends s e w.now progress.wants v' after.wants else v' = v := by
  cases progress with
  | pending =>
    exact h.beginBringUp running serves distinct fun same => clock same (by simp [Progress.wants,
      Agenda.readyJob])
  | requesting due a =>
    by_cases reached : due ≤ w.now
    · have world : w.turnBringUp p x (.requesting due a) = w.concludeBringUp p x a := if_pos reached
      by_cases same : x.name = e.name
      · have right := clock same (by simp [Progress.wants, Agenda.readyJob, reached])
        obtain ⟨w', result, concluded, comes⟩ :=
          h.concludeBringUp running serves a distinct (.inl ⟨same, right, rfl⟩)
        refine ⟨w', _, _, world.trans concluded, comes, .answered reached result, ?_⟩
        rw [if_pos same]
        simp [Solo.Attends, Progress.wants, Agenda.readyJob, reached, Solo.perform]
      · obtain ⟨w', result, concluded, comes⟩ :=
          h.concludeBringUp running serves a distinct (.inr ⟨same, rfl⟩)
        exact ⟨w', _, v, world.trans concluded, comes, .answered reached result, if_neg same ▸ rfl⟩
    · refine ⟨w, _, v, if_neg reached, ⟨own, ses, h, running, Onward.refl w⟩,
        .waits (Nat.not_le.1 reached), ?_⟩
      simp [Solo.Attends, Progress.wants, Agenda.readyJob, reached]
  | done result =>
    refine ⟨w, _, v, rfl, ⟨own, ses, h, running, Onward.refl w⟩, .stays result, ?_⟩
    simp [Solo.Attends, Progress.wants, Agenda.readyJob]

/-! ## Passes -/

theorem partOf_cons (e x : EndpointConfig) (progress : Progress)
    (rest : List (EndpointConfig × Progress)) :
    partOf e ((x, progress) :: rest) = if x.name = e.name then some progress else partOf e rest := by
  by_cases same : x.name = e.name <;> simp [partOf, same]

theorem partOf_of_absent {parts : List (EndpointConfig × Progress)}
    (absent : e.name ∉ parts.map fun part => part.1.name) : partOf e parts = none := by
  unfold partOf
  rw [Option.map_eq_none_iff, List.find?_eq_none]
  intro part hpart
  simpa using fun same => absent (List.mem_map.2 ⟨part, hpart, same⟩)

/-- Every part of a pass goes on. -/
theorem Shows.turnParts (serves : p.Serves s) : ∀ {parts : List (EndpointConfig × Progress)}
    {own : Option Nat} {ses : Polling.Session Handler} {w : World} {v : Solo},
    Shows s e own ses w v → ses.running = true →
    (∀ part ∈ parts, part.1.name = e.name → part.1 = e) →
    (parts.map fun part => part.1.name).Nodup →
    (Agenda.readyJob w.now ((partOf e parts).bind Progress.wants) ≠ none → v.now = w.now) →
    ∃ w' after v', w.turnParts p parts = (w', after) ∧ Shows.Comes s e w w' v' ∧
      List.Forall₂ (fun a b => b.1 = a.1 ∧ a.2.Goes w.now b.2) parts after ∧
      v.Attends s e w.now ((partOf e parts).bind Progress.wants) v'
        ((partOf e after).bind Progress.wants)
  | [], own, ses, w, v, h, running, _, _, _ =>
    ⟨w, [], v, rfl, ⟨own, ses, h, running, Onward.refl w⟩, .nil, rfl, rfl⟩
  | (x, progress) :: rest, own, ses, w, v, h, running, distinct, names, clock => by
    -- at most one part is that of the endpoint: this one, or one of the rest
    rw [List.map_cons, List.nodup_cons] at names
    rw [partOf_cons] at clock ⊢
    obtain ⟨w₁, after, v₁, world, ⟨own₁, ses₁, h₁, running₁, onward⟩, goes, attends⟩ :=
      h.turnBringUp running serves (distinct (x, progress) (List.mem_cons_self ..)) progress
        fun same => by rw [if_pos same] at clock; exact clock
    have others := Shows.turnParts serves h₁ running₁
      (fun part hpart => distinct part (List.mem_cons_of_mem _ hpart)) names.2
    by_cases same : x.name = e.name
    · -- the other parts are those of other endpoints
      have absent : partOf e rest = none := partOf_of_absent (same ▸ names.1)
      obtain ⟨w₂, rest', v₂, world', ⟨own₂, ses₂, h₂, running₂, onward'⟩, goes', attends'⟩ :=
        others (by simp [absent, Agenda.readyJob])
      rw [absent] at attends'
      obtain ⟨rfl, -⟩ := attends'
      rw [if_pos same] at attends
      refine ⟨w₂, (x, after) :: rest', v₂, ?_, ⟨own₂, ses₂, h₂, running₂, onward.trans onward'⟩,
        .cons ⟨rfl, goes⟩ (onward.now ▸ goes'), ?_⟩
      · simp only [World.turnParts, world, world']
      · rw [partOf_cons, if_pos same, if_pos same]
        exact attends
    · rw [if_neg same] at attends clock ⊢
      subst attends
      obtain ⟨w₂, rest', v₂, world', ⟨own₂, ses₂, h₂, running₂, onward'⟩, goes', attends'⟩ :=
        others (onward.now ▸ clock)
      rw [onward.now] at goes' attends'
      refine ⟨w₂, (x, after) :: rest', v₂, ?_, ⟨own₂, ses₂, h₂, running₂, onward.trans onward'⟩,
        .cons ⟨rfl, goes⟩ goes', ?_⟩
      · simp only [World.turnParts, world, world']
      · rw [partOf_cons, if_neg same]
        exact attends'

section Dues

variable {now due : Nat} {job : Job} {before after : List (EndpointConfig × Progress)}

theorem newDues_of_begun
    (goes : List.Forall₂ (fun a b => b.1 = a.1 ∧ Progress.Goes now a.2 b.2) before after)
    (begun : ∀ part ∈ before, part.2 ≠ .pending) : World.newDues before after = [] := by
  induction goes with
  | nil => rfl
  | @cons a b before after first rest ih =>
    obtain ⟨x, progress⟩ := a
    obtain ⟨y, next⟩ := b
    have others := ih fun part hpart => begun part (List.mem_cons_of_mem _ hpart)
    cases progress with
    | pending => exact absurd rfl (begun _ (List.mem_cons_self ..))
    | requesting | done => exact others

/-- Each request that begins in a turn waits for an instant to come. -/
theorem late_newDues
    (goes : List.Forall₂ (fun a b => b.1 = a.1 ∧ Progress.Goes now a.2 b.2) before after)
    (hdue : due ∈ World.newDues before after) : now < due := by
  induction goes with
  | nil => cases hdue
  | @cons a b before after first rest ih =>
    obtain ⟨x, progress⟩ := a
    obtain ⟨y, next⟩ := b
    obtain ⟨-, goes⟩ := first
    cases goes with
    | asked late =>
      rcases List.mem_cons.1 hdue with rfl | hdue
      · exact late
      · exact ih hdue
    | ended | waits | answered | stays => exact ih hdue

theorem mem_newDues
    (goes : List.Forall₂ (fun a b => b.1 = a.1 ∧ Progress.Goes now a.2 b.2) before after)
    (fresh : ∀ part ∈ before, part.2 = .pending)
    (wanted : (partOf e after).bind Progress.wants = some (due, job)) :
    due ∈ World.newDues before after := by
  induction goes with
  | nil => cases wanted
  | @cons a b before after first rest ih =>
    obtain ⟨x, progress⟩ := a
    obtain ⟨y, next⟩ := b
    obtain rfl : progress = .pending := fresh _ (List.mem_cons_self ..)
    have others := ih fun part hpart => fresh part (List.mem_cons_of_mem _ hpart)
    rw [partOf_cons] at wanted
    obtain ⟨-, goes⟩ := first
    cases goes with
    | @asked at' a late =>
      split at wanted
      · cases wanted
        exact List.mem_cons_self ..
      · exact List.mem_cons_of_mem _ (others wanted)
    | ended result =>
      split at wanted
      · cases wanted
      · exact others wanted

/-- The parts stay those of their endpoints, and none is left to begin. -/
theorem parts_of_goes
    (goes : List.Forall₂ (fun a b => b.1 = a.1 ∧ Progress.Goes now a.2 b.2) before after) :
    after.map (·.1) = before.map (·.1) ∧ ∀ part ∈ after, part.2 ≠ .pending := by
  induction goes with
  | nil => exact ⟨rfl, List.forall_mem_nil _⟩
  | @cons a b before after first rest ih =>
    obtain ⟨x, progress⟩ := a
    obtain ⟨y, next⟩ := b
    obtain ⟨rfl, goes⟩ := first
    refine ⟨congrArg (y :: ·) ih.1, ?_⟩
    intro part hpart
    rcases List.mem_cons.1 hpart with rfl | hpart
    · rintro rfl
      cases goes
    · exact ih.2 part hpart

/-- A request of a bring-up that has begun is answered for good. -/
theorem wants_of_answered
    (goes : List.Forall₂ (fun a b => b.1 = a.1 ∧ Progress.Goes now a.2 b.2) before after)
    (begun : ∀ part ∈ before, part.2 ≠ .pending)
    (reached : Agenda.readyJob now ((partOf e before).bind Progress.wants) ≠ none) :
    (partOf e after).bind Progress.wants = none := by
  induction goes with
  | nil => rfl
  | @cons a b before after first rest ih =>
    obtain ⟨x, progress⟩ := a
    obtain ⟨y, next⟩ := b
    obtain ⟨rfl, goes⟩ := first
    rw [partOf_cons] at reached ⊢
    split
    · next same =>
      rw [if_pos same] at reached
      cases goes with
      | asked | ended => exact absurd rfl (begun _ (List.mem_cons_self ..))
      | waits late => simp [Progress.wants, Agenda.readyJob, Nat.not_le.2 late] at reached
      | answered | stays => rfl
    · next other =>
      rw [if_neg other] at reached
      exact ih (fun part hpart => begun part (List.mem_cons_of_mem _ hpart)) reached

end Dues

theorem wants_of_done {parts : List (EndpointConfig × Progress)}
    (done : (parts.all fun part => part.2.isDone) = true) :
    (partOf e parts).bind Progress.wants = none := by
  unfold partOf
  cases found : parts.find? fun part => part.1.name == e.name with
  | none => rfl
  | some part =>
    have ended := List.all_eq_true.1 done part (List.mem_of_find?_eq_some found)
    cases hpart : part.2 with
    | done => simp [hpart, Progress.wants]
    | pending | requesting =>
      rw [hpart] at ended
      cases ended

/-- A turn of a pass. -/
theorem Shows.turnPass (h : Shows s e own ses w v) (employed : Employed s ses (.pass p))
    (distinct : ∀ x ∈ s.endpoints, x.name = e.name → x = e)
    (names : (s.endpoints.map fun x => x.name).Nodup)
    (clock : Agenda.readyJob w.now ((partOf e p.parts).bind Progress.wants) ≠ none →
      v.now = w.now) :
    ∃ w' after dues own' ses' v', w.turnPass p = (w', after, dues) ∧ Shows s e own' ses' w' v' ∧
      Onward w w' ∧
      v.Attends s e w.now ((partOf e p.parts).bind Progress.wants) v'
        (after.bind fun p' => (partOf e p'.parts).bind Progress.wants) ∧
      ∀ p' ∈ after, Turned s w.now ses' (.pass p) ((partOf e p.parts).bind Progress.wants) (.pass p')
        ((partOf e p'.parts).bind Progress.wants) dues := by
  obtain ⟨hs, hkey, hclient, whole, parts, begun, fresh⟩ := employed
  have serves : p.Serves s := ⟨hs, hkey, hclient, whole⟩
  -- the session runs before the parts go on
  obtain ⟨w₀, ses₀, started, h₀, running₀, onward₀⟩ : ∃ w₀ ses₀,
      (if p.wholeService && !p.begun then w.startSession p.session else (w, true)) = (w₀, true) ∧
        Shows s e own ses₀ w₀ v ∧ ses₀.running = true ∧ Onward w w₀ := by
    cases hbegun : p.begun with
    | false =>
      obtain ⟨w₀, started, onward, shows⟩ := h.start
      exact ⟨w₀, _, by simp [whole, hkey, started], shows, rfl, onward⟩
    | true => exact ⟨w, ses, by simp, h, begun hbegun, Onward.refl w⟩
  have members : ∀ part ∈ p.parts, part.1 ∈ s.endpoints := fun part hpart =>
    parts ▸ List.mem_map_of_mem hpart
  obtain ⟨w₁, after, v₁, turned, ⟨own₁, ses₁, h₁, running₁, onward₁⟩, goes, attends⟩ :=
    Shows.turnParts serves h₀ running₀
      (fun part hpart => distinct part.1 (members part hpart))
      (by rw [← parts, List.map_map] at names; exact names) (onward₀.now ▸ clock)
  rw [onward₀.now] at goes attends
  have onward := onward₀.trans onward₁
  have world : w.turnPass p =
      if after.all fun part => part.2.isDone then
        (w₁.say (World.passEntry { p with begun := true, parts := after }), none, [])
      else (w₁, some { p with begun := true, parts := after }, World.newDues p.parts after) := by
    unfold World.turnPass
    rw [started]
    simp only [if_true, turned, whole]
  by_cases done : (after.all fun part => part.2.isDone) = true
  · rw [if_pos done] at world
    have silent : Alike s e w₁ (w₁.say (World.passEntry { p with begun := true, parts := after })) :=
      alike_say (by simp [World.passEntry, World.starterEntry]) w₁
    rw [wants_of_done done] at attends
    exact ⟨_, none, [], own₁, ses₁, v₁, world, h₁.alike silent, onward.trans silent.onward, attends,
      by simp⟩
  · rw [if_neg done] at world
    refine ⟨w₁, _, _, own₁, ses₁, v₁, world, h₁, onward, attends, ?_⟩
    rintro p' ⟨⟩
    obtain ⟨same, unasked⟩ := parts_of_goes goes
    have going : p.begun = true → ∀ part ∈ p.parts, part.2 ≠ .pending := by
      intro hbegun part hpart pending
      rw [(fresh part hpart).1 pending] at hbegun
      cases hbegun
    exact
      { employed := ⟨hs, hkey, hclient, whole, same.trans parts, fun _ => running₁, fun part hpart =>
          ⟨fun pending => absurd pending (unasked part hpart), fun hbegun => by cases hbegun⟩⟩
        cycle := fun key n heq => by rcases heq with heq | heq <;> cases heq
        late := fun due => late_newDues goes
        short := fun alone => by cases alone
        set := fun alone due job => mem_newDues goes fun part hpart =>
          (fresh part hpart).2 (by simpa [soloLone] using alone)
        bare := fun going' =>
          ⟨newDues_of_begun goes (going (by simpa [soloLone] using going')), rfl⟩
        done := fun going' =>
          wants_of_answered goes (going (by simpa [soloLone] using going')) }

end TopicRelay.Simulation
