/-
What the listener of a service is told. A service that is started hangs its hooks on an update source
that may already stand anywhere. From then on, whatever is done with the sources of the client, the
hooks of the start run for the state in which the source was found and for each state that it enters,
in order. A hook that runs tells the listener once, and, when the service becomes active, begins one
bring-up of all its endpoints; nothing else that is done with sources does either.

`Effected` says what something done with sources comes to in the world: a registry, and the hooks that
ran, through which alone the listener is told and bring-ups are begun.
-/
import TopicRelay.Proofs.Publication.Mirror
import TopicRelay.Simulation.Governance

namespace TopicRelay.Simulation

open TopicRelay.Broker TopicRelay.Config TopicRelay.Control TopicRelay.Publication

/-! ## What hooks bring about -/

/-- What a hook tells the listener. -/
def Hook.notification? (h : Hook) : Option (Occasion × String) :=
  if h.observed then some (h.occasion, h.service.name) else none

/-- The bring-up that a hook begins. -/
def Hook.pass? (h : Hook) : Option Pass :=
  match h.occasion with
  | .active => some (.ofService h.service h.session h.client)
  | .standby | .closed => none

/-- The hook of a running service for an occasion. -/
def Hook.of (r : Running) (on : Occasion) : Hook :=
  { occasion := on, service := r.config, session := r.session, client := r.context.client
    observed := r.context.observed }

/-- What a happening tells the listener. -/
def Happening.notification? : Happening → Option (Occasion × String)
  | .notified on service => some (on, service)
  | _ => none

/-- What the listener has been told, in order. -/
def History.notifications (h : History) : List (Occasion × String) :=
  h.reverse.filterMap fun x => x.2.notification?

/-- Bring-ups begin, one after the other. -/
def spawnPasses (passes : List Pass) (a : Time.Agenda Work) : Time.Agenda Work :=
  passes.foldl (fun a p => a.spawn (.pass p)) a

/-- No source has hooks of a session. -/
def Unheard (key : SessionKey) (r : Registry Hook) : Prop :=
  r.Free fun h => decide (h.session = key)

/-- Something that is done with the update sources of a client. -/
inductive Deal where
  | launch (r : Running)
  /-- A source is added that nobody listens to. -/
  | add (s : ServiceConfig)
  | act (n : Nat) (a : Action)
  | remove (s : ServiceConfig)
  | close (s : Broker.Session)

/-- Whether a deal is one with the client of a service and does not start that service once more. -/
def Deal.Apart (r : Running) : Deal → Prop
  | .launch other => other.context.client = r.context.client ∧ other.session ≠ r.session
  | .close s => s.client = r.context.client
  | .add _ | .act _ _ | .remove _ => True

namespace World

variable {w w' w₁ w₂ : World} {c : Client} {reg reg₁ reg₂ : Registry Hook}
  {told told₁ told₂ : List (Notice Hook)}

/-- Whether the registry of a client is there. -/
def Hosts (w : World) : Client → Prop
  | .standIn => True
  | .logOnly n => n < w.logClients.length

/-- Does something with the sources of a client. -/
def deal (c : Client) (w : World) : Deal → World
  | .launch r => w.performChore (.launch r)
  | .add s => (w.addSource c s).1
  | .act n a => (w.actOn c n a).1
  | .remove s => (w.removeService c s).1
  | .close s => w.closeBroker s

/-- What a deal makes of the registry of its client, and what it tells. -/
def dealt (c : Client) (w : World) : Deal → Registry Hook × List (Notice Hook)
  | .launch r =>
    let (reg, n, told) := (w.registry c).add (w.policy c) r.config
    let (reg, more) := reg.attachAll n (hooksOf r)
    (reg, told ++ more)
  | .add s =>
    let (reg, _, told) := (w.registry c).add (w.policy c) s
    (reg, told)
  | .act n a =>
    let (reg, told, _) := (w.registry c).call n (.act a)
    (reg, told)
  | .remove s =>
    let (reg, told, _) := (w.registry c).remove s.name
    (reg, told)
  | .close _ =>
    match c with
    | .standIn => (w.registry c, [])
    | .logOnly _ => (w.registry c).closeAll

/-- The world after deals. -/
def dealAll (c : Client) (w : World) (deals : List Deal) : World :=
  deals.foldl (deal c) w

/-- The hooks that deals run. -/
def hooksRun (c : Client) (w : World) : List Deal → List Hook
  | [] => []
  | d :: rest => Notice.hooks (w.dealt c d).2 ++ (w.deal c d).hooksRun c rest

/-- Where a source stands. -/
def stateOf (c : Client) (n : Nat) (w : World) : SourceState :=
  (((w.registry c).source? n).map (·.state)).getD .unregistered

/-- Where a source stands after each of some deals. -/
def statesAfter (c : Client) (n : Nat) (w : World) : List Deal → List SourceState
  | [] => []
  | d :: rest => (w.deal c d).stateOf c n :: (w.deal c d).statesAfter c n rest

/-! ## Effects -/

/-- What something done with sources comes to: the registry of a client, and, through the hooks that
ran, what the listener is told and which bring-ups begin. -/
structure Effected (c : Client) (w w' : World) (reg : Registry Hook) (told : List (Notice Hook)) :
    Prop where
  hosts : w.Hosts c → w'.Hosts c
  registry : w'.registry c = reg
  notified : History.notifications w'.history =
    History.notifications w.history ++ (Notice.hooks told).filterMap Hook.notification?
  agenda : w'.agenda = spawnPasses ((Notice.hooks told).filterMap Hook.pass?) w.agenda

theorem Effected.trans (h₁ : Effected c w w₁ reg₁ told₁) (h₂ : Effected c w₁ w₂ reg₂ told₂) :
    Effected c w w₂ reg₂ (told₁ ++ told₂) where
  hosts := h₂.hosts ∘ h₁.hosts
  registry := h₂.registry
  notified := by
    rw [h₂.notified, h₁.notified, Notice.hooks_append, List.filterMap_append, List.append_assoc]
  agenda := by
    rw [h₂.agenda, h₁.agenda, Notice.hooks_append, List.filterMap_append]
    exact List.foldl_append.symm

theorem Effected.congr (h : Effected c w w' reg told₁)
    (same : Notice.hooks told₂ = Notice.hooks told₁) : Effected c w w' reg told₂ where
  hosts := h.hosts
  registry := h.registry
  notified := same ▸ h.notified
  agenda := same ▸ h.agenda

theorem notifications_record (h : Happening) (w : World) :
    History.notifications (w.record h).history =
      History.notifications w.history ++ h.notification?.toList := by
  simp only [record, History.notifications, List.reverse_cons, List.filterMap_append]
  cases hn : h.notification? <;> simp [hn]

/-- What else is recorded changes nothing of this. -/
theorem effected_record (c : Client) {h : Happening} (w : World) (other : h.notification? = none) :
    Effected c w (w.record h) (w.registry c) [] where
  hosts := by cases c <;> exact id
  registry := by cases c <;> rfl
  notified := by simp [notifications_record, Notice.hooks, other]
  agenda := rfl

theorem effected_say (c : Client) (e : Log.Entry) (w : World) :
    Effected c w (w.say e) (w.registry c) [] :=
  effected_record c w rfl

theorem effected_notify (c : Client) (h : Hook) (w : World) :
    (w.Hosts c → (w.notify h).Hosts c) ∧
      (w.notify h).registry c = w.registry c ∧
      History.notifications (w.notify h).history =
        History.notifications w.history ++ h.notification?.toList ∧
      (w.notify h).agenda = w.agenda := by
  unfold notify Hook.notification?
  split
  · exact ⟨by cases c <;> exact id, by cases c <;> rfl, notifications_record _ w, rfl⟩
  · simp

theorem effected_runHook (c : Client) (h : Hook) (w : World) :
    Effected c w (w.runHook h) (w.registry c) [.ran h] := by
  have hheard : (Notice.hooks [Notice.ran h]).filterMap Hook.notification? =
      h.notification?.toList := by
    cases hn : h.notification? <;> simp [Notice.hooks, hn]
  have hevent (event : String) :
      let w' := (w.say (starterEntry event h.service [])).notify h
      (w.Hosts c → w'.Hosts c) ∧ w'.registry c = w.registry c ∧
        History.notifications w'.history =
          History.notifications w.history ++ h.notification?.toList ∧
        w'.agenda = w.agenda := by
    have hsay := effected_say c (starterEntry event h.service []) w
    obtain ⟨hhosts, hreg, hnotified, hagenda⟩ :=
      effected_notify c h (w.say (starterEntry event h.service []))
    refine ⟨hhosts ∘ hsay.hosts, hreg.trans hsay.registry, ?_, hagenda⟩
    rw [hnotified, hsay.notified]
    simp [Notice.hooks]
  unfold runHook
  rcases hon : h.occasion with _ | _ | _
  · obtain ⟨hhosts, hreg, hnotified, hagenda⟩ := hevent "service_standby"
    refine ⟨hhosts, hreg, by rw [hheard]; exact hnotified, ?_⟩
    simpa [Notice.hooks, Hook.pass?, hon, spawnPasses] using hagenda
  · obtain ⟨hhosts, hreg, hnotified, hagenda⟩ := hevent "service_active"
    refine ⟨?_, ?_, by rw [hheard]; exact hnotified, ?_⟩
    · intro there
      cases c <;> exact hhosts there
    · rw [← hreg]
      cases c <;> rfl
    · simp [Notice.hooks, Hook.pass?, hon, spawnPasses, hagenda]
  · obtain ⟨hhosts, hreg, hnotified, hagenda⟩ := hevent "service_close"
    refine ⟨hhosts, hreg, by rw [hheard]; exact hnotified, ?_⟩
    simpa [Notice.hooks, Hook.pass?, hon, spawnPasses] using hagenda

theorem effected_heed (c : Client) : ∀ (told : List (Notice Hook)) (w : World),
    Effected c w (w.heed told) (w.registry c) told
  | [], w => ⟨id, rfl, by simp [heed, Notice.hooks], rfl⟩
  | .moved path t :: rest, w => by
    have hsay := effected_say c (t.entry path) w
    have hrest := effected_heed c rest (w.say (t.entry path))
    rw [hsay.registry] at hrest
    exact (hsay.trans hrest).congr rfl
  | .ran h :: rest, w => by
    have hrun := effected_runHook c h w
    have hrest := effected_heed c rest (w.runHook h)
    rw [hrun.registry] at hrest
    exact hrun.trans hrest

theorem registry_setRegistry (hosts : w.Hosts c) (r : Registry Hook) :
    (w.setRegistry c r).registry c = r := by
  cases c with
  | standIn => rfl
  | logOnly n =>
    have hn : n < w.logClients.length := hosts
    simp [registry, setRegistry, hn]

/-- A registry takes the place of another, and what it tells takes effect. -/
theorem effected_set (hosts : w.Hosts c) (r : Registry Hook) (told : List (Notice Hook)) :
    Effected c w ((w.setRegistry c r).heed told) r told := by
  have hheed := effected_heed c told (w.setRegistry c r)
  rw [registry_setRegistry hosts] at hheed
  have hset : Effected c w (w.setRegistry c r) r [] :=
    ⟨by cases c <;> simp [Hosts, setRegistry], registry_setRegistry hosts r,
      by cases c <;> simp [setRegistry, Notice.hooks], by cases c <;> rfl⟩
  exact hset.trans hheed

/-! ## What is done with sources -/

theorem Effected.say (h : Effected c w w' reg told) (e : Log.Entry) :
    Effected c w (w'.say e) reg told := by
  have hsay := h.trans (effected_say c e w')
  rwa [h.registry, List.append_nil] at hsay

/-- A service that is announced has no source yet. -/
theorem effected_announce (c : Client) (s : ServiceConfig) (m : Member) (w : World) :
    Effected c w ((w.addMember m).announce c s) (w.registry c) [] := by
  have hmember : Effected c w (w.addMember m) (w.registry c) [] :=
    ⟨by cases c <;> exact id, by cases c <;> rfl, by simp [addMember, Notice.hooks], rfl⟩
  cases c with
  | standIn => exact hmember.trans (effected_record _ (w.addMember m) rfl)
  | logOnly n => exact hmember.say _

theorem effected_addSource (hosts : w.Hosts c) (s : ServiceConfig) :
    Effected c w (w.addSource c s).1 ((w.registry c).add (w.policy c) s).1
      ((w.registry c).add (w.policy c) s).2.2 :=
  effected_set hosts _ _

theorem effected_attach (hosts : w.Hosts c) (n : Nat) (hooks : List (Occasion × Hook)) :
    Effected c w (w.attach c n hooks) ((w.registry c).attachAll n hooks).1
      ((w.registry c).attachAll n hooks).2 :=
  effected_set hosts _ _

/-- A service is launched: its source is added, and then its hooks are attached to it. -/
theorem effected_launch (r : Running) (w : World) :
    let c := r.context.client
    ∃ w₁, Effected c w w₁ (w.registry c) [] ∧ w₁.policy c = w.policy c ∧
      w.performChore (.launch r) =
        (w₁.addSource c r.config).1.attach c (w.registry c).handed.length (hooksOf r) := by
  intro c
  have hannounce := effected_announce c r.config
    { key := r.session, session := { service := r.config }, client := c
      counted := r.context.observed } w
  refine ⟨_, hannounce, ?_, ?_⟩
  · cases c <;> rfl
  · rw [← hannounce.registry]
    rfl

/-- A deal comes to what the registry of its client makes of it. -/
theorem effected_deal {r : Running} {d : Deal} (hosts : w.Hosts r.context.client) (apart : d.Apart r) :
    Effected r.context.client w (w.deal r.context.client d) (w.dealt r.context.client d).1
      (w.dealt r.context.client d).2 := by
  cases d with
  | launch other =>
    obtain ⟨hclient, -⟩ := apart
    rw [← hclient] at hosts ⊢
    obtain ⟨w₁, hquiet, hpolicy, hlaunch⟩ := effected_launch other w
    have hadd := effected_addSource (hquiet.hosts hosts) other.config
    rw [hquiet.registry, hpolicy] at hadd
    have hattach := effected_attach (hadd.hosts (hquiet.hosts hosts))
      (w.registry other.context.client).handed.length (hooksOf other)
    rw [hadd.registry] at hattach
    rw [deal, hlaunch]
    exact hquiet.trans (hadd.trans hattach)
  | add s => exact effected_set hosts _ _
  | act n a => exact effected_set hosts _ _
  | remove s =>
    cases hc : r.context.client with
    | standIn =>
      rw [hc] at hosts
      have hasked : Effected .standIn w (w.record (.removalAsked s.name)) (w.registry .standIn) [] :=
        effected_record _ w rfl
      exact hasked.trans (effected_set (hasked.hosts hosts) _ _)
    | logOnly n =>
      rw [hc] at hosts
      have hset := effected_set hosts ((w.registry (.logOnly n)).remove s.name).1
        ((w.registry (.logOnly n)).remove s.name).2.1
      simp only [deal, dealt, removeService]
      generalize (w.registry (.logOnly n)).remove s.name = out at hset ⊢
      obtain ⟨reg, told, _ | _⟩ := out
      · exact hset
      · exact hset.say _
  | close s =>
    have hclient : s.client = r.context.client := apart
    rw [← hclient] at hosts ⊢
    simp only [deal, closeBroker, dealt]
    cases hc : s.client with
    | standIn => exact ⟨id, rfl, by simp [Notice.hooks], rfl⟩
    | logOnly n =>
      rw [hc] at hosts
      exact (effected_set hosts _ _).say _

theorem hosts_of_source {n : Nat} {s : Source Hook} (there : (w.registry c).source? n = some s) :
    w.Hosts c := by
  cases c with
  | standIn => trivial
  | logOnly m =>
    by_contra absent
    have hm : w.logClients.length ≤ m := Nat.le_of_not_lt absent
    simp [registry, Registry.source?, List.getElem?_eq_none hm, Registry.empty] at there

/-! ## The hooks of one start -/

section

variable {r : Running} {n : Nat} {st : SourceState}

/-- The source of a start, with its hooks. -/
def Mirrors (r : Running) (n : Nat) (st : SourceState) (w : World) : Prop :=
  Registry.Bears (fun h => decide (h.session = r.session)) (Hook.of r) n st
    (w.registry r.context.client)

theorem Mirrors.stateOf (h : w.Mirrors r n st) : w.stateOf r.context.client n = st := by
  obtain ⟨s, there, hstate, -⟩ := h.own
  simp [World.stateOf, there, hstate]

/-- A deal runs the hook of the state that the source enters, if it does. -/
theorem Mirrors.deal (h : w.Mirrors r n st) {d : Deal} (apart : d.Apart r) :
    let w' := w.deal r.context.client d
    ∃ st', w'.Mirrors r n st' ∧
      (Notice.hooks (w.dealt r.context.client d).2).filter (fun h => decide (h.session = r.session)) =
        (st.entered st').map (Hook.of r) ∧
      (st = .closed → st' = .closed) := by
  intro w'
  have hturns : Registry.Turns (fun h => decide (h.session = r.session)) (Hook.of r) n
      (w.registry r.context.client) (w.dealt r.context.client d).1 (w.dealt r.context.client d).2 := by
    cases d with
    | launch other =>
      have foreign : ∀ x ∈ hooksOf other, decide (x.2.session = r.session) = false := by
        intro x hx
        obtain ⟨on, -, rfl⟩ := List.mem_map.1 hx
        exact decide_eq_false apart.2
      have hadd : Registry.Turns (fun h => decide (h.session = r.session)) (Hook.of r) n _ _ _ :=
        Registry.turns_add (w.policy r.context.client) (w.registry r.context.client) other.config
      exact hadd.keeps (Registry.keeps_attachAll (w.registry r.context.client).handed.length
        (hooksOf other) _ foreign)
    | add s => exact Registry.turns_add _ _ _
    | act m a => exact Registry.turns_act _ m a
    | remove s => exact Registry.turns_remove _ _
    | close s =>
      simp only [dealt]
      split
      · exact Registry.Keeps.refl.closes.turns
      · exact Registry.turns_closeAll _
  obtain ⟨st', hbears, hran, hclosed⟩ := hturns st h
  obtain ⟨s, there, -⟩ := h.own
  refine ⟨st', ?_, hran, hclosed⟩
  rw [Mirrors, (effected_deal (hosts_of_source there) apart).registry]
  exact hbears

theorem Mirrors.dealAll : ∀ (deals : List Deal) {w : World} {st : SourceState},
    w.Mirrors r n st → (∀ d ∈ deals, d.Apart r) →
    let c := r.context.client
    let entries := st.entries (w.statesAfter c n deals)
    (w.hooksRun c deals).filter (fun h => decide (h.session = r.session)) =
        entries.map (Hook.of r) ∧
      (st = .closed → entries = []) ∧
      entries.Pairwise (fun earlier _ => earlier ≠ .closed) ∧
      ∃ reg told, Notice.hooks told = w.hooksRun c deals ∧ Effected c w (w.dealAll c deals) reg told
  | [], w, st, _, _ =>
    ⟨rfl, fun _ => rfl, List.Pairwise.nil, _, [], rfl, id, rfl, by simp [Notice.hooks]; rfl, rfl⟩
  | d :: rest, w, st, h, apart => by
    intro c entries
    have apart₁ := apart d List.mem_cons_self
    obtain ⟨s, there, -⟩ := h.own
    have heffected := effected_deal (hosts_of_source there) apart₁
    obtain ⟨st', h', hran, hclosed⟩ := h.deal apart₁
    obtain ⟨hrest, hsilent, hlast, reg, told, htold, heffect⟩ :=
      Mirrors.dealAll rest h' fun d hd => apart d (List.mem_cons_of_mem _ hd)
    have hentries : entries = st.entered st' ++
        st'.entries ((w.deal c d).statesAfter c n rest) := by
      simp only [entries, statesAfter, SourceState.entries, h'.stateOf, c]
    refine ⟨?_, ?_, ?_, reg, (w.dealt c d).2 ++ told, ?_, heffected.trans heffect⟩
    · rw [hentries, List.map_append, ← hran, ← hrest, ← List.filter_append]
      rfl
    · rintro rfl
      obtain rfl := hclosed rfl
      rw [hentries, hsilent rfl, SourceState.entered_self, List.nil_append]
    · rw [hentries, List.pairwise_append]
      refine ⟨SourceState.pairwise_entered st st', hlast, ?_⟩
      rintro on hon later hlater rfl
      rw [hsilent (SourceState.mem_entered hon)] at hlater
      cases hlater
    · rw [Notice.hooks_append, htold]
      rfl

/-- The hooks of a start are attached, and one runs at once if the source is in the state of its
occasion. -/
theorem mirrors_attach {w : World} {s : Source Hook}
    (there : (w.registry r.context.client).source? n = some s)
    (unheard : Unheard r.session (w.registry r.context.client)) :
    (w.attach r.context.client n (hooksOf r)).Mirrors r n s.state ∧
      Notice.hooks ((w.registry r.context.client).attachAll n (hooksOf r)).2 =
        s.state.occasion?.toList.map (Hook.of r) := by
  have hbears := Registry.bears_attachAll unheard there
    fun on => (decide_eq_true rfl : decide ((Hook.of r on).session = r.session) = true)
  refine ⟨?_, hbears.2⟩
  rw [Mirrors, (effected_attach (hosts_of_source there) n (hooksOf r)).registry]
  exact hbears.1

theorem notifications_of (occasions : List Occasion) :
    (occasions.map (Hook.of r)).filterMap Hook.notification? =
      if r.context.observed then occasions.map fun on => (on, r.config.name) else [] := by
  induction occasions with
  | nil => simp
  | cons on rest ih =>
    cases hobserved : r.context.observed <;>
      simp_all [Hook.notification?, Hook.of]

theorem passes_of (occasions : List Occasion) :
    (occasions.map (Hook.of r)).filterMap Hook.pass? =
      List.replicate (occasions.count .active)
        (.ofService r.config r.session r.context.client) := by
  induction occasions with
  | nil => rfl
  | cons on rest ih =>
    cases on <;> simp_all [Hook.pass?, Hook.of, List.filterMap_cons, List.replicate_succ]

theorem count_closed_le {l : List Occasion}
    (last : l.Pairwise fun earlier _ => earlier ≠ .closed) : l.count .closed ≤ 1 := by
  induction last with
  | nil => simp
  | @cons on rest hfirst _ ih =>
    rw [List.count_cons]
    split
    next closed =>
      have hrest : rest = [] := List.eq_nil_iff_forall_not_mem.2 fun later hlater =>
        hfirst later hlater (by simpa using closed)
      simp [hrest]
    next => exact ih

end

/-! ## The listener and the source -/

/-- A start hangs its hooks on a source of its own, which nobody has heard of before and which the
client has registered, and activated if it does that at once. -/
theorem start_attaches (r : Running) (w : World) (hosts : w.Hosts r.context.client)
    (unheard : Unheard r.session (w.registry r.context.client))
    (filed : ∀ p ∈ (w.registry r.context.client).kept,
      p.2 < (w.registry r.context.client).handed.length) :
    let c := r.context.client
    let n := (w.registry c).handed.length
    ∃ w₀ : World, w.performChore (.launch r) = w₀.attach c n (hooksOf r) ∧
      Unheard r.session (w₀.registry c) ∧
      (w₀.registry c).source? n = some
        { topicPath := r.config.topicPathRoot
          state := if (w.policy c).activates then .active else .standby } := by
  intro c n
  obtain ⟨w₁, hquiet, hpolicy, hlaunch⟩ := effected_launch r w
  have hadd := effected_addSource (hquiet.hosts hosts) r.config
  rw [hquiet.registry, hpolicy] at hadd
  refine ⟨_, hlaunch, ?_, ?_⟩
  · rw [hadd.registry]
    exact Registry.Free.add unheard _ _
  · rw [hadd.registry]
    exact Registry.source?_add filed _ _

/-- Notifications mirror the source, whatever the client. A start attaches its hooks to a new source,
on standby or active as the client has it. And wherever a source stands when the hooks of a start are
attached to it, after anything that is then done with the sources of the client:

* the hooks of the start that have run are, in order, the one for the state found, unless the source
  was unregistered, and one for each state entered since; each of them tells the listener once, if
  there is one, and exactly those for the active state begin a bring-up, of all endpoints of the
  service;
* the listener is told of a removal at most once, and of nothing after it;
* the listener has been told, and bring-ups have been begun, by the hooks that have run and by nothing
  else. -/
theorem notifications_mirror_source (r : Running) :
    let c := r.context.client
    (∀ w : World, w.Hosts c → Unheard r.session (w.registry c) →
      (∀ p ∈ (w.registry c).kept, p.2 < (w.registry c).handed.length) →
      let n := (w.registry c).handed.length
      ∃ w₀ : World, w.performChore (.launch r) = w₀.attach c n (hooksOf r) ∧
        Unheard r.session (w₀.registry c) ∧
        (w₀.registry c).source? n = some
          { topicPath := r.config.topicPathRoot
            state := if (w.policy c).activates then .active else .standby }) ∧
    ∀ (w : World) (n : Nat) (s : Source Hook) (deals : List Deal),
      (w.registry c).source? n = some s → Unheard r.session (w.registry c) →
      (∀ d ∈ deals, d.Apart r) →
      let begun := w.attach c n (hooksOf r)
      let ended := begun.dealAll c deals
      let ran := Notice.hooks ((w.registry c).attachAll n (hooksOf r)).2 ++ begun.hooksRun c deals
      let own := ran.filter fun h => decide (h.session = r.session)
      let occasions := s.state.occasion?.toList ++ s.state.entries (begun.statesAfter c n deals)
      (own = occasions.map (Hook.of r) ∧
        own.filterMap Hook.notification? =
          (if r.context.observed then occasions.map fun on => (on, r.config.name) else []) ∧
        own.filterMap Hook.pass? = List.replicate (occasions.count .active)
          (.ofService r.config r.session c)) ∧
      (occasions.count .closed ≤ 1 ∧ occasions.Pairwise fun earlier _ => earlier ≠ .closed) ∧
      History.notifications ended.history =
        History.notifications w.history ++ ran.filterMap Hook.notification? ∧
      ended.agenda = spawnPasses (ran.filterMap Hook.pass?) w.agenda := by
  intro c
  refine ⟨fun w hosts unheard filed => start_attaches r w hosts unheard filed, ?_⟩
  intro w n s deals there unheard apart begun ended ran own occasions
  obtain ⟨hmirrors, hfirst⟩ := mirrors_attach there unheard
  obtain ⟨hran, hsilent, hlast, reg, told, htold, heffect⟩ := hmirrors.dealAll deals apart
  have hown : own = occasions.map (Hook.of r) := by
    have hattached : (s.state.occasion?.toList.map (Hook.of r)).filter
        (fun h => decide (h.session = r.session)) = s.state.occasion?.toList.map (Hook.of r) := by
      rw [List.filter_eq_self]
      intro h hh
      obtain ⟨on, -, rfl⟩ := List.mem_map.1 hh
      exact decide_eq_true rfl
    show List.filter _ (Notice.hooks
      ((w.registry r.context.client).attachAll n (hooksOf r)).2 ++ _) = _
    rw [hfirst, List.filter_append, hattached, hran, ← List.map_append]
  have hclosed : occasions.Pairwise fun earlier _ => earlier ≠ .closed := by
    refine List.pairwise_append.2 ⟨?_, hlast, ?_⟩
    · cases s.state.occasion? <;> simp
    · rintro on hon later hlater rfl
      have hstate : s.state = .closed := by
        cases hs : s.state <;> simp_all [SourceState.occasion?]
      rw [hsilent hstate] at hlater
      cases hlater
  have hall := (effected_attach (hosts_of_source there) n (hooksOf r)).trans heffect
  have hhooks : Notice.hooks (((w.registry c).attachAll n (hooksOf r)).2 ++ told) = ran := by
    rw [Notice.hooks_append, htold]
  refine ⟨⟨hown, ?_, ?_⟩, ⟨count_closed_le hclosed, hclosed⟩, ?_, ?_⟩
  · rw [hown]
    exact notifications_of occasions
  · rw [hown]
    exact passes_of occasions
  · rw [← hhooks]
    exact hall.notified
  · rw [← hhooks]
    exact hall.agenda

/-- A service of the stand-in broker. -/
def weather : Running :=
  { config :=
      { name := "weather", host := "weather.test", topicPathRoot := "weather"
        endpoints := [{ name := "now", url := "/now", topicPath := "now" }] }
    session := { owner := .manager, number := 0 }
    context :=
      { client := .standIn, http := { number := 0, security := [], trust := none }
        observed := true } }

/-- Its source waits at a broker that does not activate. -/
def standbyWorld : World :=
  (({ autoActivate := false } : World).addSource weather.context.client weather.config).1

/-- It is toggled twice and closed, while a source of the same name is there. -/
def toggles : List Deal :=
  [.act 0 .activate, .act 0 .activate, .act 0 .standby, .add weather.config, .act 0 .activate,
    .act 0 .close, .act 0 .standby, .act 1 .activate]

/-- The listener is told of each state in turn, and two bring-ups begin. -/
theorem notifications_mirror_source_toggled :
    let c := weather.context.client
    let ended := (standbyWorld.attach c 0 (hooksOf weather)).dealAll c toggles
    History.notifications ended.history =
        [(.standby, "weather"), (.active, "weather"), (.standby, "weather"), (.active, "weather"),
          (.closed, "weather")] ∧
      ended.agenda.tasks.length = 2 := by
  have unheard : Unheard weather.session (standbyWorld.registry weather.context.client) := by
    have hempty : Unheard weather.session (.empty : Registry Hook) := by
      intro m s there
      cases there
    have hadd := effected_addSource (w := { autoActivate := false }) (c := weather.context.client)
      trivial weather.config
    rw [standbyWorld, hadd.registry]
    exact hempty.add _ weather.config
  have main := (notifications_mirror_source weather).2 standbyWorld 0
    { topicPath := "weather", state := .standby } toggles (by decide +kernel) unheard
    (by simp [toggles, Deal.Apart])
  obtain ⟨-, -, hnotified, hagenda⟩ := main
  refine ⟨hnotified.trans (by decide +kernel), ?_⟩
  rw [hagenda]
  decide +kernel

end World

end TopicRelay.Simulation
