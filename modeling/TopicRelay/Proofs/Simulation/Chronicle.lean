/-
What moves write into the history. A move adds entries to it, and `Scene.Writes` says once which ones: a
request or a topic is asked for by a bring-up whose session has not been stopped, a poll is requested and
a value is published by a cycle of the session whose handler read it, and everything else is plain. So
whatever stands in the history of a run can be traced to the move that wrote it.
-/
import TopicRelay.Proofs.Simulation.Sections
import Mathlib.Data.List.Induction

namespace TopicRelay.Polling

open TopicRelay.Config TopicRelay.Log

variable {η : Type}

/-- The log entry that is written, if one is. -/
def Deed.written? : Deed η → Option Entry
  | .operation (.log e) | .cycle (.log e) => some e
  | _ => none

namespace Session

theorem component_trackedEntry (s : Session η) (tracked e : EndpointConfig) :
    (s.trackedEntry tracked e).component = "service_session" := by
  unfold trackedEntry
  split <;> rfl

theorem component_answerEntry (s : Session η) (e : EndpointConfig) (a : Answer) :
    (s.answerEntry e a).component = "service_session" := by
  cases a <;> rfl

/-- A session writes entries of its own. -/
theorem Step.component {s s' : Session η} {ds : List (Deed η)}
    (step : s.Step s' ds) : ∀ d ∈ ds, ∀ e, d.written? = some e → e.component = "service_session" := by
  have own {d : Deed η} {e : Entry} (written : d.written? = some e)
      (h : e.component = "service_session") :
      ∀ e', d.written? = some e' → e'.component = "service_session" := by
    intro e' same
    rw [written] at same
    exact Option.some.inj same ▸ h
  have silent {d : Deed η} (none : d.written? = none) :
      ∀ e, d.written? = some e → e.component = "service_session" := by
    intro e written
    rw [none] at written
    cases written
  have scheduled (slot : Slot η) : ∀ f ∈ [SessionEffect.log (s.scheduleEntry slot.config),
      .spawn slot.epoch slot.config], ∀ e, (.operation f : Deed η).written? = some e →
        e.component = "service_session" :=
    List.forall_mem_cons.2 ⟨own rfl rfl, List.forall_mem_singleton.2 (silent rfl)⟩
  cases step with
  | idle => exact List.forall_mem_nil _
  | ignored ended => exact List.forall_mem_singleton.2 (own rfl rfl)
  | tracked there => exact List.forall_mem_singleton.2 (own rfl (component_trackedEntry s _ _))
  | started now live =>
    refine List.forall_mem_map.2 (List.forall_mem_cons.2 ⟨own rfl rfl, fun f hf => ?_⟩)
    obtain ⟨slot, -, hf⟩ := List.mem_flatMap.1 hf
    exact scheduled slot f hf
  | added now e handler live new =>
    refine List.forall_mem_map.2 (List.forall_mem_append.2 ⟨fun f hf => ?_, ?_⟩)
    · split at hf
      · exact scheduled (s.slotFor e handler) f hf
      · cases hf
    · exact List.forall_mem_singleton.2 (own rfl rfl)
  | stopped =>
    refine List.forall_mem_map.2 (List.forall_mem_append.2 ⟨?_, fun f hf => ?_⟩)
    · exact List.forall_mem_map.2 fun slot _ => silent rfl
    · split at hf
      · obtain rfl := List.mem_singleton.1 hf
        exact own rfl rfl
      · cases hf
  | advanced there advance =>
    cases advance with
    | prepared =>
      exact List.forall_mem_cons.2 ⟨own rfl rfl, List.forall_mem_singleton.2 (silent rfl)⟩
    | skipped => exact List.forall_mem_nil _
    | sent | delivered => exact List.forall_mem_singleton.2 (silent rfl)
    | refused => exact List.forall_mem_cons.2 ⟨own rfl rfl, List.forall_mem_singleton.2 (silent rfl)⟩
    | received =>
      exact List.forall_mem_cons.2 ⟨silent rfl, List.forall_mem_cons.2
        ⟨own rfl (component_answerEntry s _ _), List.forall_mem_singleton.2 (silent rfl)⟩⟩
    | discarded => exact List.forall_mem_singleton.2 (own rfl rfl)
  | dropped there cancelled abandons =>
    rw [abandons]
    split
    · exact List.forall_mem_singleton.2 (silent rfl)
    · exact List.forall_mem_nil _

end Session

end TopicRelay.Polling

namespace TopicRelay.Simulation

open TopicRelay.Broker TopicRelay.Config TopicRelay.Content TopicRelay.Control
open TopicRelay.Polling TopicRelay.Publication

/-! ## Definitions -/

/-- The topic that a bring-up asks for. -/
def topicRequest (p : Pass) (r : Resolved) : TopicRequest :=
  { session := p.session, service := p.service.name, endpoint := r.pinned
    topicPath := p.service.topicPath r.pinned, kind := r.kind, initial := r.initial }

/-- What the history shows where a bring-up asks for its topic. -/
def Pass.asksTopic (p : Pass) (r : Resolved) : Happening :=
  match p.client with
  | .standIn => .topicAsked (topicRequest p r)
  | .logOnly _ => .logged (LogOnly.topicEntry p.service r.pinned r.kind true)

/-- What the history shows where a session publishes a value. -/
def Member.publishes (m : Member) (t : Target) (v : TopicValue) : Happening :=
  match m.client with
  | .standIn => .published (some m.key) t.topicPath v
  | .logOnly _ => .logged (LogOnly.updatedEntry t v)

/-- Whether a value is published. -/
def Happening.isPublication : Happening → Bool
  | .published _ _ _ => true
  | .logged e => e.component == "log_broker" && e.event == "log_broker_update"
  | _ => false

/-- Whether something is the end of a request or of a bring-up, or an entry that does not come from the
log-only broker: nothing is asked for and nothing is published. -/
def Happening.isPlain : Happening → Bool
  | .answered _ | .abandoned _ | .initialised _ _ => true
  | .logged e => e.component != "log_broker"
  | _ => false

/-- The history goes on with nothing but what satisfies a predicate. -/
def Adds (P : Happening → Prop) (w w' : World) : Prop :=
  ∃ fresh : History, w'.history = fresh ++ w.history ∧ ∀ x ∈ fresh, P x.2

/-- What a move may write. -/
inductive Scene.Writes (x : Scene) : Scene.Move → Happening → Prop
  | plain (mv : Scene.Move) {h : Happening} (plain : h.isPlain = true) : Writes x mv h
  | request {n : Nat} {t : Errand} (there : x.errands[n]? = some t) (pending : t.phase = .pending)
      (live : x.world.isStopped t.pass.session = false) :
      Writes x (.resume n) (.requested (World.bringUpRequest t.pass t.endpoint))
  | topic {n : Nat} {t : Errand} {r : Resolved} (there : x.errands[n]? = some t)
      (resolved : t.phase = .resolved r) (live : x.world.isStopped t.pass.session = false) :
      Writes x (.resume n) (t.pass.asksTopic r)
  | poll {key : SessionKey} {epoch : Nat} {step : CycleStep} {m : Member} {c : Cycle}
      (held : x.world.member? key = some m)
      (sent : .send c ∈ (step.take x.world.now epoch m.session).2) :
      Writes x (.cycle key epoch step) (.requested (World.pollRequest m c))
  | publication {key : SessionKey} {epoch : Nat} {step : CycleStep} {m : Member} {c : Cycle}
      {h : Handler} {answer : Answer} {v : TopicValue} (held : x.world.member? key = some m)
      (delivered : .deliver c h answer ∈ (step.take x.world.now epoch m.session).2)
      (read : h.value answer = .ok v) :
      Writes x (.cycle key epoch step) (m.publishes h.target v)

variable {P Q : Happening → Prop} {w w' w₁ : World}

/-! ## Additions -/

theorem Adds.of_history (h : w'.history = w.history) : Adds P w w' :=
  ⟨[], h, List.forall_mem_nil _⟩

theorem Adds.refl (w : World) : Adds P w w :=
  .of_history rfl

theorem Adds.trans (h : Adds P w w₁) (h' : Adds P w₁ w') : Adds P w w' := by
  obtain ⟨fresh, grown, all⟩ := h
  obtain ⟨fresh', grown', all'⟩ := h'
  refine ⟨fresh' ++ fresh, ?_, List.forall_mem_append.2 ⟨all', all⟩⟩
  rw [grown', grown, List.append_assoc]

theorem Adds.mono (h : Adds P w w') (imp : ∀ h, P h → Q h) : Adds Q w w' := by
  obtain ⟨fresh, grown, all⟩ := h
  exact ⟨fresh, grown, fun x hx => imp _ (all x hx)⟩

theorem Adds.suffix (h : Adds P w w') : w.history <:+ w'.history := by
  obtain ⟨fresh, grown, -⟩ := h
  exact ⟨fresh, grown.symm⟩

/-- What has been added can be told from the two histories. -/
theorem Adds.all (h : Adds P w w') {fresh : History} (grown : w'.history = fresh ++ w.history) :
    ∀ x ∈ fresh, P x.2 := by
  obtain ⟨fresh', grown', all⟩ := h
  rw [List.append_cancel_right (grown.symm.trans grown')]
  exact all

theorem adds_record {h : Happening} (holds : P h) (w : World) : Adds P w (w.record h) :=
  ⟨[(w.now, h)], rfl, List.forall_mem_singleton.2 holds⟩

theorem createTopic_fst (p : Pass) (r : Resolved) (w : World) :
    (w.createTopic p.client p.session p.service r).1 = w.record (p.asksTopic r) := by
  unfold World.createTopic Pass.asksTopic
  cases p.client <;> rfl

/-- A value that fits its target is published. -/
theorem publish_of_check {t : Target} {v : TopicValue} (fits : t.check v = .ok ()) (m : Member)
    (w : World) : w.publish m.client (some m.key) t v = (w.record (m.publishes t v), .ok ()) := by
  unfold World.publish Member.publishes
  rw [fits]
  cases m.client <;> rfl

/-! ## What parts of a move add -/

/-- An entry about a bring-up comes from elsewhere. -/
theorem component_bringUpEntry (level : Log.Level) (event : String) (s : ServiceConfig)
    (e : EndpointConfig) (fields : List (String × Log.Field)) :
    (bringUpEntry level event s e fields).component ≠ "log_broker" := by
  show "endpoint_initializer" ≠ "log_broker"
  decide

section Plain

/-! Everything plain satisfies the predicate. -/

variable (plain : ∀ h : Happening, h.isPlain = true → P h)
include plain

theorem adds_say {e : Log.Entry} (own : e.component ≠ "log_broker") (w : World) :
    Adds P w (w.say e) :=
  adds_record (plain (.logged e) (bne_iff_ne.2 own)) w

theorem adds_endBringUp (p : Pass) (e : EndpointConfig)
    (result : Except InitialisationError PayloadKind) (w : World) :
    Adds P w (w.endBringUp p e result).1 := by
  have own : (bringUpEnded p.service e result).component ≠ "log_broker" := by
    unfold bringUpEnded
    split <;> exact component_bringUpEntry _ _ _ _ _
  have ended := adds_say plain own w
  unfold World.endBringUp
  cases p.wholeService with
  | true => exact ended
  | false => exact ended.trans (adds_record (plain _ rfl) _)

theorem adds_performSession (key : SessionKey) :
    ∀ (effects : List SessionEffect) (w : World),
      (∀ f ∈ effects, ∀ e, (.operation f : Deed Handler).written? = some e →
        e.component = "service_session") →
      Adds P w (effects.foldl (World.performSession key) w)
  | [], w, _ => .refl w
  | f :: rest, w, own => by
    obtain ⟨first, later⟩ := List.forall_mem_cons.1 own
    refine Adds.trans ?_ (adds_performSession key rest _ later)
    cases f with
    | log e => exact adds_say plain (by rw [first e rfl]; decide) w
    | spawn | cancel => exact .of_history rfl

theorem adds_settleSession {s s' : Polling.Session Handler} {effects : List SessionEffect}
    (step : s.Step s' (effects.map .operation)) (key : SessionKey) (w : World) :
    Adds P w (w.settleSession key s' effects) :=
  (Adds.of_history rfl).trans <| adds_performSession plain key effects _
    (List.forall_mem_map.1 step.component)

theorem adds_startSession (key : SessionKey) (w : World) : Adds P w (w.startSession key).1 := by
  unfold World.startSession
  split
  · exact .refl w
  · next m _ => exact adds_settleSession plain (m.session.step_start w.now) key w

theorem adds_stopSession (key : SessionKey) (w : World) : Adds P w (w.stopSession key) := by
  unfold World.stopSession
  split
  · exact .refl w
  · next m _ => exact adds_settleSession plain (.stopped : m.session.Step _ _) key w

theorem adds_addEndpoint (key : SessionKey) (e : EndpointConfig) (w : World) :
    Adds P w (w.addEndpoint key e).1 := by
  unfold World.addEndpoint
  split
  · exact .refl w
  · next m _ => exact adds_settleSession plain (m.session.step_add _ w.now e) key w

theorem adds_pollEvent (key : SessionKey) (ev : PollEvent) (w : World) :
    Adds P w (w.pollEvent key ev) := by
  unfold World.pollEvent
  split
  · exact .refl w
  · next m _ =>
    dsimp only
    generalize hw : (if m.counted then { w with metrics := w.metrics.count ev } else w) = w₁
    have counted : Adds P w w₁ := by
      subst hw
      split <;> exact .of_history rfl
    split
    · exact counted.trans ((Adds.of_history rfl).trans (adds_stopSession plain key _))
    · exact counted

/-- A handler writes an entry, and publishes the value that it reads if it reads one. -/
theorem adds_handle {m : Member} {h : Handler} {answer : Answer}
    (publishes : ∀ v, h.value answer = .ok v → P (m.publishes h.target v)) (w : World) :
    Adds P w (w.handle m h answer) := by
  have own (failure : Option String) : (h.entry failure).component ≠ "log_broker" := by
    have other : "poll_handler" ≠ "log_broker" := by decide
    cases failure <;> exact other
  unfold World.handle
  split
  · exact adds_say plain (own _) w
  · next v read =>
    cases fits : h.target.check v with
    | error err =>
      simp only [World.publish, fits]
      exact adds_say plain (own _) w
    | ok u =>
      rw [publish_of_check fits]
      exact (adds_record (publishes v read) w).trans (adds_say plain (own none) _)

/-- A cycle writes entries of its session, sends requests and publishes what its handlers read. -/
theorem adds_performCycles {m : Member} :
    ∀ (effects : List (CycleEffect Handler)) (w : World),
      (∀ f ∈ effects, ∀ e, (.cycle f : Deed Handler).written? = some e →
        e.component = "service_session") →
      (∀ c, .send c ∈ effects → P (.requested (World.pollRequest m c))) →
      (∀ c h answer v, .deliver c h answer ∈ effects → h.value answer = .ok v →
        P (m.publishes h.target v)) →
      Adds P w (effects.foldl (World.performCycle m) w)
  | [], w, _, _, _ => .refl w
  | f :: rest, w, own, sends, delivers => by
    obtain ⟨first, later⟩ := List.forall_mem_cons.1 own
    refine Adds.trans ?_ (adds_performCycles rest _ later
      (fun c hc => sends c (List.mem_cons_of_mem _ hc))
      fun c h answer v hd => delivers c h answer v (List.mem_cons_of_mem _ hd))
    cases f with
    | log e => exact adds_say plain (by rw [first e rfl]; decide) w
    | tell ev => exact adds_pollEvent plain m.key ev w
    | send c =>
      exact (adds_record (sends c List.mem_cons_self) w).trans (.of_history rfl)
    | settle c | abandon c => exact (adds_record (plain _ rfl) w).trans (.of_history rfl)
    | deliver c h answer =>
      exact adds_handle plain (fun v => delivers c h answer v List.mem_cons_self) w

/-- A bring-up asks for its endpoint and for its topic, each if its session has not been stopped. -/
theorem adds_resume (p : Pass) (e : EndpointConfig) (w : World) (phase : Phase)
    (asks : phase = .pending → w.isStopped p.session = false →
      P (.requested (World.bringUpRequest p e)))
    (topics : ∀ r, phase = .resolved r → w.isStopped p.session = false → P (p.asksTopic r)) :
    Adds P w (w.resume p e phase).1 := by
  cases phase with
  | pending =>
    have begun : Adds P w (w.say (bringUpStarted p.service e)) :=
      adds_say plain (component_bringUpEntry _ _ _ _ _) w
    simp only [World.resume]
    split
    · exact begun.trans (adds_endBringUp plain p e _ _)
    · next live =>
      exact begun.trans ((adds_record (asks rfl (Bool.eq_false_iff.2 live)) _).trans (.of_history rfl))
  | asked answer =>
    have answered : Adds P w { w.record (.answered (World.bringUpRequest p e)) with
        endpoints := w.endpoints.release e.name } :=
      (adds_record (plain _ rfl) w).trans (.of_history rfl)
    simp only [World.resume]
    split
    · exact answered.trans (adds_endBringUp plain p e _ _)
    · exact answered
  | resolved r =>
    simp only [World.resume]
    split
    · exact adds_endBringUp plain p e _ w
    · next live =>
      rw [createTopic_fst]
      exact adds_record (topics r rfl (Bool.eq_false_iff.2 live)) w
  | creating r outcome =>
    cases outcome with
    | error err => exact adds_endBringUp plain p e _ w
    | ok creation =>
      cases creation with
      | created => exact .refl w
      | alreadyExists => exact adds_say plain (component_bringUpEntry _ _ _ _ _) w
  | created r =>
    simp only [World.resume]
    split
    · exact .refl w
    · exact adds_endBringUp plain p e _ w
  | admitted r =>
    have added := adds_addEndpoint plain p.session r.pinned w
    simp only [World.resume]
    split <;> exact added.trans (adds_endBringUp plain p e _ _)
  | ended result => exact .refl w

end Plain

namespace Scene

variable {x : Scene}

/-- A move writes what it may write. -/
theorem adds_take (x : Scene) (mv : Move) : Adds (x.Writes mv) x.world (x.take mv).world := by
  have plain (h : Happening) (hp : h.isPlain = true) : x.Writes mv h := .plain mv hp
  cases mv with
  | launch | activate | initialise =>
    simp only [take]
    split <;> exact .of_history rfl
  | begin n =>
    simp only [take]
    split
    · next p _ =>
      unfold begin
      cases p.wholeService with
      | true => exact adds_startSession plain p.session x.world
      | false => exact .of_history rfl
    · exact .refl _
  | resume n =>
    simp only [take]
    split
    · next t there =>
      exact adds_resume plain t.pass t.endpoint x.world t.phase
        (fun pending live => .request there pending live)
        fun r resolved live => .topic there resolved live
    · exact .refl _
  | start key => exact adds_startSession plain key x.world
  | stop key => exact adds_stopSession plain key x.world
  | track key e => exact adds_addEndpoint plain key e x.world
  | cycle key epoch step =>
    simp only [take, World.moveCycle]
    split
    · exact .refl _
    · next m held =>
      have own := (step_cycleStep x.world.now epoch m.session step).component
      exact (Adds.of_history rfl).trans <| adds_performCycles plain _ _ (List.forall_mem_map.1 own)
        (fun c sent => .poll held sent) fun c h answer v delivered read => .publication held delivered read
  | register client r => cases client <;> exact .of_history rfl
  | script | outcomes | clock => exact .of_history rfl

/-! ## Runs -/

/-- The history of a run begins with that of each part of it. -/
theorem history_suffix (x : Scene) {past moves : List Move} (part : past <+: moves) :
    (x.run past).world.history <:+ (x.run moves).world.history := by
  obtain ⟨more, rfl⟩ := part
  induction more using List.reverseRecOn with
  | nil => simp
  | append_singleton more mv ih =>
    rw [← List.append_assoc, run_concat]
    exact ih.trans ((x.run (past ++ more)).adds_take mv).suffix

/-- Whatever stands in the history of a run was written by one of its moves, when everything before it
in the history had been written. -/
theorem written_by (fresh : x.world.history = []) {moves : List Move} {later earlier : History}
    {now : Nat} {event : Happening}
    (h : (x.run moves).world.history = later ++ (now, event) :: earlier) :
    ∃ past mv, past ++ [mv] <+: moves ∧ (x.run past).world.history <:+ earlier ∧
      (x.run past).Writes mv event := by
  induction moves using List.reverseRecOn generalizing later with
  | nil =>
    rw [run, List.foldl_nil, fresh] at h
    simp at h
  | append_singleton past mv ih =>
    rw [run_concat] at h
    obtain ⟨new, grown, writes⟩ := (x.run past).adds_take mv
    rw [grown] at h
    rcases List.append_eq_append_iff.1 h with ⟨mid, -, old⟩ | ⟨mid, hnew, hold⟩
    · obtain ⟨past', mv', part, before, wrote⟩ := ih old
      exact ⟨past', mv', part.trans (List.prefix_append _ _), before, wrote⟩
    · cases mid with
      | nil =>
        obtain ⟨past', mv', part, before, wrote⟩ := @ih [] hold.symm
        exact ⟨past', mv', part.trans (List.prefix_append _ _), before, wrote⟩
      | cons first mid =>
        rw [List.cons_append, List.cons.injEq] at hold
        obtain ⟨rfl, rfl⟩ := hold
        refine ⟨past, mv, List.prefix_refl _, List.suffix_append _ _, ?_⟩
        exact writes (now, event) (hnew ▸ List.mem_append_right _ List.mem_cons_self)

end Scene

end TopicRelay.Simulation
