/-
A world in which one service runs shows a solo of one of its endpoints. The world has one session, one
source and tasks for the passes over the service and for the cycles of the session; the jobs of the
endpoint are a lane of the agenda. Whatever is done for another endpoint leaves the solo as it is.
-/
import TopicRelay.Proofs.Polling.Delivery
import TopicRelay.Proofs.Simulation.Concerning

namespace TopicRelay.Simulation

open TopicRelay.Broker TopicRelay.Config TopicRelay.Content TopicRelay.Control
open TopicRelay.Polling TopicRelay.Publication TopicRelay.Time

/-! ## Worlds with one service -/

/-- The holder of the session of the service. -/
def soloMember (ses : Polling.Session Handler) : Member :=
  { key := soloKey, session := ses, client := .standIn, counted := true }

/-- The service as it runs. -/
def soloRunning (s : ServiceConfig) : Running :=
  { config := s, session := soloKey, context := World.managerContext }

/-- What hangs on the source of the service. -/
def soloHook (s : ServiceConfig) (occasion : Occasion) : Hook :=
  { occasion, service := s, session := soloKey, client := .standIn, observed := true }

/-- The sources of the stand-in broker: that of the service. -/
def soloSources (s : ServiceConfig) (active : Bool) : Registry Hook :=
  { handed := [
      { topicPath := s.topicPathRoot, state := if active then .active else .standby
        onStandby := [soloHook s .standby], onActive := [soloHook s .active]
        onClose := [soloHook s .closed] }]
    kept := [(s.name, 0)] }

/-- How far the bring-up of an endpoint has gone, among parts of a pass. -/
def partOf (e : EndpointConfig) (parts : List (EndpointConfig × Progress)) : Option Progress :=
  (parts.find? fun part => part.1.name == e.name).map (·.2)

/-- What a bring-up of an endpoint wants. -/
def Progress.wants : Progress → Option (Nat × Job)
  | .pending => some (0, .begin)
  | .requesting due a => some (due, .answer a)
  | .done _ => none

/-- What a task wants to be done for an endpoint, whose cycle has an epoch and has gone so far. -/
def soloWants (e : EndpointConfig) (own : Option Nat) (feed : Option (Handler × Stage)) :
    Work → Option (Nat × Job)
  | .pass p => (partOf e p.parts).bind Progress.wants
  | .cycle _ epoch =>
    if own = some epoch then feed.bind fun f => f.2.due?.map fun due => (due, .poll) else none
  | _ => none

/-- Cycles, and passes that have not begun, are woken by one timer at most. -/
def soloLone : Work → Bool
  | .pass p => !p.begun
  | .cycle _ _ => true
  | _ => false

/-- The work that there is for the service: passes over it, and cycles of its session. -/
def Employed (s : ServiceConfig) (ses : Polling.Session Handler) : Work → Prop
  | .pass p =>
    p.service = s ∧ p.session = soloKey ∧ p.client = .standIn ∧ p.wholeService = true ∧
      p.parts.map (·.1) = s.endpoints ∧ (p.begun = true → ses.running = true) ∧
      ∀ part ∈ p.parts, part.2 = .pending ↔ p.begun = false
  | .cycle key epoch => key = soloKey ∧ epoch < ses.nextEpoch
  | _ => False

/-- How the session tracks an endpoint, if it does. -/
def Tracks (e : EndpointConfig) (ses : Polling.Session Handler) :
    Option Nat → Option (Handler × Stage) → Prop
  | own, none => own = none ∧ ses.slot? e.name = none
  | own, some (h, stage) => ses.running = true ∧ ∃ slot ∈ ses.slots, ∃ c ∈ ses.cycles,
    slot.config.name = e.name ∧ slot.handler = h ∧ c.endpoint = slot.config ∧
      c.epoch = slot.epoch ∧ c.stage = stage ∧ own = some slot.epoch

/-- A world shows a solo. -/
structure Shows (s : ServiceConfig) (e : EndpointConfig) (own : Option Nat)
    (ses : Polling.Session Handler) (w : World) (v : Solo) : Prop where
  members : w.members = [soloMember ses]
  managed : w.manager.map (·.running) = some [soloRunning s]
  sources : w.standIn = soloSources s v.active
  script : (w.endpoints.script e.name).play = (v.queued, v.repeated, v.delay)
  outcome : w.broker.outcome e.name = v.outcome
  clock : v.ready ≠ [] → v.now = w.now
  told : w.history.concerning s e = v.told
  service : ses.service = s
  live : ses.stopped = false
  orderly : ses.Orderly
  dormant : ses.running = false → ses.slots = []
  labels : ∀ slot ∈ ses.slots, slot.handler.label = s.endpointLabel slot.config
  tracks : Tracks e ses own v.feed
  unaborted : ∀ t ∈ w.agenda.tasks, t.aborted = false
  employed : ∀ t ∈ w.agenda.tasks, Employed s ses t.work
  epochs : ∀ t ∈ w.agenda.tasks, ∀ x ∈ w.agenda.tasks, ∀ key key' epoch,
    t.work = .cycle key epoch → x.work = .cycle key' epoch → t = x
  lane : ∃ blocks, w.agenda.Lane (soloWants e own v.feed) soloLone w.now blocks v.ready v.waiting

variable {s : ServiceConfig} {e : EndpointConfig} {own : Option Nat}
  {ses ses' : Polling.Session Handler} {w w₁ w₂ : World} {v : Solo}

theorem Shows.alike (h : Shows s e own ses w v) (alike : Alike s e w w₁) :
    Shows s e own ses w₁ v where
  members := alike.members.trans h.members
  managed := by rw [alike.manager]; exact h.managed
  sources := alike.standIn.trans h.sources
  script := alike.script.trans h.script
  outcome := alike.outcome.trans h.outcome
  clock := fun busy => (h.clock busy).trans alike.now.symm
  told := alike.told.trans h.told
  service := h.service
  live := h.live
  orderly := h.orderly
  dormant := h.dormant
  labels := h.labels
  tracks := h.tracks
  unaborted := by rw [alike.agenda]; exact h.unaborted
  employed := by rw [alike.agenda]; exact h.employed
  epochs := by rw [alike.agenda]; exact h.epochs
  lane := by rw [alike.agenda, alike.now]; exact h.lane

/-- A part of a turn: the clock stands still, the running task runs on, and all that is new in the
agenda is cycles. -/
structure Onward (w w' : World) : Prop where
  now : w'.now = w.now
  current : w'.agenda.current = w.agenda.current
  tasks : ∀ t ∈ w.agenda.tasks, t ∈ w'.agenda.tasks
  queue : ∃ new, w'.agenda.queue = w.agenda.queue ++ new ∧
    ∀ id ∈ new, ∃ t ∈ w'.agenda.tasks, t.id = id ∧ t.work matches .cycle _ _

theorem Onward.trans (h : Onward w w₁) (h' : Onward w₁ w₂) : Onward w w₂ where
  now := h'.now.trans h.now
  current := h'.current.trans h.current
  tasks := fun t ht => h'.tasks t (h.tasks t ht)
  queue := by
    obtain ⟨new, hqueue, cycles⟩ := h.queue
    obtain ⟨new', hqueue', cycles'⟩ := h'.queue
    refine ⟨new ++ new', by rw [hqueue', hqueue, List.append_assoc], ?_⟩
    intro id hid
    rcases List.mem_append.1 hid with hid | hid
    · obtain ⟨t, ht, rest⟩ := cycles id hid
      exact ⟨t, h'.tasks t ht, rest⟩
    · exact cycles' id hid

theorem Onward.refl (w : World) : Onward w w :=
  ⟨rfl, rfl, fun _ ht => ht, [], (List.append_nil _).symm, List.forall_mem_nil _⟩

/-- A part of a turn that leaves the agenda as it is. -/
structure Still (w w' : World) : Prop where
  now : w'.now = w.now
  agenda : w'.agenda = w.agenda

theorem Still.trans (h : Still w w₁) (h' : Still w₁ w₂) : Still w w₂ :=
  ⟨h'.now.trans h.now, h'.agenda.trans h.agenda⟩

theorem Still.onward (h : Still w w₁) : Onward w w₁ where
  now := h.now
  current := by rw [h.agenda]
  tasks := fun t ht => by rw [h.agenda]; exact ht
  queue := ⟨[], by rw [h.agenda, List.append_nil], List.forall_mem_nil _⟩

theorem Alike.still (h : Alike s e w w₁) : Still w w₁ :=
  ⟨h.now, h.agenda⟩

theorem Alike.onward (h : Alike s e w w₁) : Onward w w₁ :=
  h.still.onward

theorem onward_record (x : Happening) (w : World) : Onward w (w.record x) :=
  Still.onward ⟨rfl, rfl⟩

theorem still_asked (purpose : Purpose) (s : ServiceConfig) (x : EndpointConfig) (w : World) :
    Still w (w.asked purpose s x) :=
  ⟨rfl, rfl⟩

/-! ## What concerns the endpoint -/

/-- What concerns the endpoint is told of. -/
theorem Shows.tell (h : Shows s e own ses w v) (clock : v.now = w.now) {x : Happening}
    (adds : History.concerning s e ((w.now, x) :: w.history) =
      (w.now, x) :: w.history.concerning s e) :
    Shows s e own ses (w.record x) (v.tell x) :=
  { h with
    told := by
      show History.concerning s e ((w.now, x) :: w.history) = (v.now, x) :: v.told
      rw [adds, h.told, clock] }

theorem Shows.delay (h : Shows s e own ses w v) : (w.endpoints.script e.name).delay = v.delay :=
  congrArg (·.2.2) h.script

theorem Shows.answer (h : Shows s e own ses w v) :
    (w.endpoints.script e.name).answer e.name = v.answer e := by
  have queued : (w.endpoints.script e.name).queued = v.queued := congrArg (·.1) h.script
  have repeated : (w.endpoints.script e.name).repeated = v.repeated := congrArg (·.2.1) h.script
  cases listed : v.queued <;> simp only [Script.answer, Solo.answer, queued, repeated, listed]

/-- The endpoint is asked. -/
theorem Shows.asked (h : Shows s e own ses w v) (clock : v.now = w.now) (purpose : Purpose) :
    Shows s e own ses (w.asked purpose s e) (v.request s e purpose) :=
  { h.tell clock (concerning_requested w.now purpose soloKey w.history) with
    script := by
      have same := script_update (fun s => { s with
        queued := s.queued.tail
        inFlight := s.inFlight + 1
        maxInFlight := max s.maxInFlight (s.inFlight + 1) }) e.name e.name w.endpoints
      rw [if_pos rfl] at same
      show (((w.endpoints.request e.name).1).script e.name).play = _
      unfold Endpoints.request
      rw [same]
      have script := h.script
      unfold Script.play at script ⊢
      simp_all [Solo.request, Solo.tell] }

/-! ## The session -/

theorem Shows.member? (h : Shows s e own ses w v) : w.member? soloKey = some (soloMember ses) := by
  unfold World.member?
  rw [h.members]
  rfl

theorem Shows.isStopped (h : Shows s e own ses w v) : w.isStopped soloKey = false := by
  unfold World.isStopped
  rw [h.member?]
  exact h.live

theorem Shows.setSession (h : Shows s e own ses w v) (ses' : Polling.Session Handler) :
    w.setSession soloKey ses' = { w with members := [soloMember ses'] } := by
  unfold World.setSession World.mapMember
  rw [h.members]
  rfl

theorem Shows.setSession_self (h : Shows s e own ses w v) : w.setSession soloKey ses = w := by
  rw [h.setSession, ← h.members]

/-- The session changes, and how far the cycle of the endpoint has gone, if that runs. -/
theorem Shows.reseat (h : Shows s e own ses w v) (ses' : Polling.Session Handler)
    {feed : Option (Handler × Stage)}
    (service : ses'.service = ses.service) (live : ses'.stopped = false)
    (running : ses.running = true → ses'.running = true)
    (epoch : ses.nextEpoch ≤ ses'.nextEpoch) (orderly : ses'.Orderly)
    (dormant : ses'.running = false → ses'.slots = [])
    (labels : ∀ slot ∈ ses'.slots, slot.handler.label = s.endpointLabel slot.config)
    (tracks : Tracks e ses' own feed)
    (same : ∀ t ∈ w.agenda.tasks, soloWants e own feed t.work = soloWants e own v.feed t.work ∨
      w.agenda.current = some t.id ∧ soloLone t.work = true) :
    Shows s e own ses' { w with members := [soloMember ses'] } { v with feed } where
  members := rfl
  managed := h.managed
  sources := h.sources
  script := h.script
  outcome := h.outcome
  clock := h.clock
  told := h.told
  service := service.trans h.service
  live := live
  orderly := orderly
  dormant := dormant
  labels := labels
  tracks := tracks
  unaborted := h.unaborted
  employed := by
    intro t ht
    have employed := h.employed t ht
    generalize t.work = work at employed
    cases work with
    | pass p =>
      obtain ⟨hs, hkey, hclient, whole, parts, begun, rest⟩ := employed
      exact ⟨hs, hkey, hclient, whole, parts, fun hbegun => running (begun hbegun), rest⟩
    | cycle key n => exact ⟨employed.1, Nat.lt_of_lt_of_le employed.2 epoch⟩
    | metrics | opening | notification => exact employed
  epochs := h.epochs
  lane := by
    obtain ⟨blocks, lane⟩ := h.lane
    exact ⟨blocks, lane.congr same⟩

/-- The session of a service that runs is started again, or is started. -/
theorem Shows.start (h : Shows s e own ses w v) :
    ∃ w', w.startSession soloKey = (w', true) ∧ Onward w w' ∧
      Shows s e own { ses with running := true } w' v := by
  have scheduled : ses.slots.map (fun slot => { slot with scheduled := true }) = ses.slots := by
    cases hrun : ses.running with
    | false => rw [h.dormant hrun]; rfl
    | true =>
      refine (List.map_congr_left fun slot hs => ?_).trans (List.map_id _)
      have := (h.orderly.scheduled slot hs).trans hrun
      cases slot
      simp_all
  have dormant : ses.slots.filter (fun slot => !slot.scheduled) = [] := by
    rw [List.filter_eq_nil_iff, ← scheduled]
    intro slot hs
    obtain ⟨x, -, rfl⟩ := List.mem_map.1 hs
    simp
  have started : w.startSession soloKey =
      (({ w with members := [soloMember { ses with running := true }] } : World).say
        (ses.entry .info "session_start" [("endpoints", .count ses.slots.length)]), true) := by
    unfold World.startSession
    rw [h.member?]
    simp [Polling.Session.start, h.live, soloMember, Polling.Session.scheduleAll, scheduled, dormant,
      World.settleSession, World.performSession, h.setSession]
  refine ⟨_, started, ?_, ?_⟩
  · exact ⟨rfl, rfl, fun _ ht => ht, [], (List.append_nil _).symm, List.forall_mem_nil _⟩
  · have orderly := h.orderly.start h.live 0
    rw [scheduled, show ses.dormant = [] from dormant, List.map_nil, List.append_nil] at orderly
    have tracks : Tracks e { ses with running := true } own v.feed := by
      have before := h.tracks
      cases hfeed : v.feed with
      | none => rw [hfeed] at before; exact before
      | some f => rw [hfeed] at before; exact ⟨rfl, before.2⟩
    have put := h.reseat { ses with running := true } rfl h.live (fun _ => rfl)
      (Nat.le_refl _) orderly (fun hrun => by cases hrun) h.labels tracks fun _ _ => .inl rfl
    exact put.alike (alike_say (by simp [Polling.Session.entry]) _)

/-! ## Endpoints that are added -/

/-- The source of the service is not closed as long as it runs. -/
theorem Shows.bind (h : Shows s e own ses w v) (x : EndpointConfig) :
    w.bind .standIn s x = fun kind => .ok (Target.of s x kind) := by
  funext kind
  have registered : (w.registry .standIn).isRegistered s.name = true := by
    show w.standIn.isRegistered s.name = true
    rw [h.sources]
    cases v.active <;> simp [soloSources, Registry.isRegistered, Registry.sourceOf?, Registry.number?,
      Registry.source?]
  rw [World.bind, if_pos registered]

theorem label_of_create {bind : PayloadKind → Except PublishingError Target} {x : EndpointConfig}
    {handler : Handler} (made : Handler.create bind s x = .ok handler) :
    handler.label = s.endpointLabel x := by
  unfold Handler.create at made
  split at made
  · cases made
  · split at made
    · cases made
    · cases made
      rfl

/-- The session with one more endpoint. -/
def withSlot (now : Nat) (x : EndpointConfig) (handler : Handler)
    (ses : Polling.Session Handler) : Polling.Session Handler :=
  { ses with
    nextEpoch := ses.nextEpoch + 1
    slots := ses.slots ++ [ses.slotFor x handler]
    cycles := ses.cycles ++ [Polling.Session.newCycle now (ses.slotFor x handler)] }

/-- The handler of an endpoint of the service. -/
def handlerOf (s : ServiceConfig) (x : EndpointConfig) : Except ServiceError Handler :=
  Handler.create (fun kind => .ok (Target.of s x kind)) s x

/-- An endpoint is added to the session: it is tracked already, or it gets no handler, or it is
tracked from now on and its cycle begins. -/
theorem Shows.addEndpoint (h : Shows s e own ses w v) (running : ses.running = true)
    (x : EndpointConfig) :
    (∃ entry result, w.addEndpoint soloKey x = (w.say entry, result) ∧
        entry.event ≠ "poll_publish_ok" ∧ (ses.slot? x.name).isSome = true) ∨
      (∃ err, w.addEndpoint soloKey x = (w, .error err) ∧ ses.slot? x.name = none ∧
        handlerOf s x = .error err) ∨
      ∃ handler first last, ses.slot? x.name = none ∧ handlerOf s x = .ok handler ∧
        Log.Entry.event first ≠ "poll_publish_ok" ∧ Log.Entry.event last ≠ "poll_publish_ok" ∧
        w.addEndpoint soloKey x =
          (World.say last (World.say first
            { w with
              members := [soloMember (withSlot w.now x handler ses)]
              agenda := w.agenda.spawn (.cycle soloKey ses.nextEpoch) }), .ok ()) := by
  have create : (fun y => Handler.create (w.bind .standIn s y) s y) = handlerOf s := by
    funext y
    rw [h.bind]
    rfl
  unfold World.addEndpoint
  rw [h.member?]
  simp only [soloMember, h.service]
  rw [create]
  unfold Polling.Session.add
  rw [if_neg (by simp [h.live])]
  cases there : ses.slot? x.name with
  | some slot =>
    refine .inl ⟨ses.trackedEntry slot.config x, .ok (), ?_, ?_, rfl⟩
    · simp [World.settleSession, World.performSession, h.setSession_self]
    · unfold Polling.Session.trackedEntry
      split <;> simp [Polling.Session.entry]
  | none =>
    cases made : handlerOf s x with
    | error err =>
      refine .inr (.inl ⟨err, ?_, rfl, rfl⟩)
      simp [World.settleSession, h.setSession_self]
    | ok handler =>
      refine .inr (.inr ⟨handler, ses.scheduleEntry x, ses.addedEntry x, rfl, rfl, ?_, ?_, ?_⟩)
      · simp [Polling.Session.scheduleEntry, Polling.Session.entry]
      · simp [Polling.Session.addedEntry, Polling.Session.entry]
      · simp only [if_pos running, World.settleSession, h.setSession]
        rfl

/-- Adding an endpoint keeps the session in order. -/
theorem orderly_withSlot (orderly : ses.Orderly) (live : ses.stopped = false)
    (running : ses.running = true) (now : Nat) {x : EndpointConfig} (handler : Handler)
    (new : ses.slot? x.name = none) : (withSlot now x handler ses).Orderly := by
  have added := orderly.add live now x handler new
  rw [if_pos running] at added
  exact added

theorem mem_slots_withSlot {now : Nat} {x : EndpointConfig} {handler : Handler}
    {slot : Slot Handler} (hs : slot ∈ (withSlot now x handler ses).slots) :
    slot ∈ ses.slots ∨ slot = ses.slotFor x handler := by
  rcases List.mem_append.1 hs with hs | hs
  · exact .inl hs
  · exact .inr (List.mem_singleton.1 hs)

theorem slot?_withSlot {now : Nat} {x : EndpointConfig} {handler : Handler} {name : String}
    (other : x.name ≠ name) : (withSlot now x handler ses).slot? name = ses.slot? name := by
  unfold Polling.Session.slot? withSlot
  rw [List.find?_append]
  cases ses.slots.find? (fun slot => slot.config.name == name) with
  | some slot => rfl
  | none => simp [Polling.Session.slotFor, other]

/-- What becomes of the tracking of an endpoint when another one is added. -/
theorem Tracks.withSlot {feed : Option (Handler × Stage)} (h : Tracks e ses own feed) {now : Nat}
    {x : EndpointConfig} {handler : Handler} (other : x.name ≠ e.name) :
    Tracks e (withSlot now x handler ses) own feed := by
  cases feed with
  | none => exact ⟨h.1, (slot?_withSlot other).trans h.2⟩
  | some f =>
    obtain ⟨running, slot, hs, c, hc, rest⟩ := h
    exact ⟨running, slot, List.mem_append_left _ hs, c, List.mem_append_left _ hc, rest⟩

/-- The slot and the cycle of a tracked endpoint. -/
theorem Tracks.exists_of_own {n : Nat} {feed : Option (Handler × Stage)}
    (h : Tracks e ses (some n) feed) :
    ses.running = true ∧ ∃ slot ∈ ses.slots, ∃ c ∈ ses.cycles, slot.config.name = e.name ∧
      c.endpoint = slot.config ∧ c.epoch = n ∧ slot.epoch = n ∧
      feed = some (slot.handler, c.stage) := by
  cases feed with
  | none => cases h.1
  | some f =>
    obtain ⟨running, slot, hs, c, hc, name, handler, config, epoch, stage, own⟩ := h
    obtain rfl := Option.some.inj own
    exact ⟨running, slot, hs, c, hc, name, config, epoch, rfl, by rw [handler, stage]⟩

theorem Tracks.isSome {feed : Option (Handler × Stage)} (h : Tracks e ses own feed)
    (orderly : ses.Orderly) : feed.isSome = (ses.slot? e.name).isSome := by
  cases feed with
  | none => rw [h.2]; rfl
  | some f =>
    obtain ⟨-, slot, hs, c, -, name, -⟩ := h
    rw [← name, orderly.slot? hs]
    rfl

theorem Tracks.epoch_lt {n : Nat} {feed : Option (Handler × Stage)} (h : Tracks e ses (some n) feed)
    (orderly : ses.Orderly) : n < ses.nextEpoch := by
  obtain ⟨-, slot, hs, -, -, -, -, -, rfl, -⟩ := h.exists_of_own
  exact orderly.below slot hs

/-- An endpoint is tracked from now on, and its cycle is spawned. -/
theorem Shows.added (h : Shows s e own ses w v) (running : ses.running = true)
    {x : EndpointConfig} {handler : Handler} (new : ses.slot? x.name = none)
    (label : handler.label = s.endpointLabel x) {own' : Option Nat}
    {feed : Option (Handler × Stage)}
    (tracks : Tracks e (withSlot w.now x handler ses) own' feed)
    (same : ∀ t ∈ w.agenda.tasks, soloWants e own' feed t.work = soloWants e own v.feed t.work)
    (prompt : ∀ due job, soloWants e own' feed (.cycle soloKey ses.nextEpoch) = some (due, job) →
      due ≤ w.now)
    (jobs : List Job) (told : jobs =
      (Agenda.readyJob w.now (soloWants e own' feed (.cycle soloKey ses.nextEpoch))).toList)
    (clock : jobs ≠ [] → v.now = w.now) :
    Shows s e own' (withSlot w.now x handler ses)
      { w with
        members := [soloMember (withSlot w.now x handler ses)]
        agenda := w.agenda.spawn (.cycle soloKey ses.nextEpoch) }
      { v with feed, ready := v.ready ++ jobs } where
  members := rfl
  managed := h.managed
  sources := h.sources
  script := h.script
  outcome := h.outcome
  clock := by
    intro busy
    by_cases idle : v.ready = []
    · exact clock fun nothing => busy (by simp [idle, nothing])
    · exact h.clock idle
  told := h.told
  service := h.service
  live := h.live
  orderly := orderly_withSlot h.orderly h.live running w.now handler new
  dormant := by
    intro resting
    rw [show (withSlot w.now x handler ses).running = ses.running from rfl, running] at resting
    cases resting
  labels := by
    intro slot hs
    rcases mem_slots_withSlot hs with hs | rfl
    · exact h.labels slot hs
    · exact label
  tracks := tracks
  unaborted := by
    intro t ht
    rcases List.mem_append.1 ht with ht | ht
    · exact h.unaborted t ht
    · rw [List.mem_singleton.1 ht]
  employed := by
    intro t ht
    rcases List.mem_append.1 ht with ht | ht
    · have employed := h.employed t ht
      generalize t.work = work at employed
      cases work with
      | pass p => exact employed
      | cycle key n => exact ⟨employed.1, Nat.lt_succ_of_lt employed.2⟩
      | metrics | opening | notification => exact employed
    · rw [List.mem_singleton.1 ht]
      exact ⟨rfl, Nat.lt_succ_self _⟩
  epochs := by
    -- the new epoch is that of no cycle that there is
    have foreign : ∀ t ∈ w.agenda.tasks, ∀ key, t.work ≠ .cycle key ses.nextEpoch := by
      intro t ht key heq
      have employed := h.employed t ht
      rw [heq] at employed
      exact absurd employed.2 (Nat.lt_irrefl _)
    intro t ht y hy key key' n htwork hywork
    rcases List.mem_append.1 ht with ht | ht <;> rcases List.mem_append.1 hy with hy | hy
    · exact h.epochs t ht y hy key key' n htwork hywork
    · rw [List.mem_singleton.1 hy] at hywork
      cases hywork
      exact absurd htwork (foreign t ht key)
    · rw [List.mem_singleton.1 ht] at htwork
      cases htwork
      exact absurd hywork (foreign y hy key')
    · rw [List.mem_singleton.1 ht, List.mem_singleton.1 hy]
  lane := by
    obtain ⟨blocks, lane⟩ := h.lane
    have spawned := (lane.congr fun t ht => .inl (same t ht)).spawn _ prompt
    rw [← told] at spawned
    exact ⟨blocks, spawned⟩

theorem onward_added (w : World) (members : List Member) (work : Work) (cycle : work matches .cycle _ _) :
    Onward w { w with members, agenda := w.agenda.spawn work } where
  now := rfl
  current := rfl
  tasks := fun _ ht => List.mem_append_left _ ht
  queue := by
    refine ⟨[w.agenda.nextId], rfl, ?_⟩
    intro id hid
    rw [List.mem_singleton.1 hid]
    exact ⟨_, List.mem_append_right _ (List.mem_singleton_self _), rfl, cycle⟩

/-- Another endpoint is added. -/
theorem Shows.addEndpoint_other (h : Shows s e own ses w v) (running : ses.running = true)
    {x : EndpointConfig} (other : x.name ≠ e.name) :
    ∃ ses', Shows s e own ses' (w.addEndpoint soloKey x).1 v ∧ ses'.running = true ∧
      Onward w (w.addEndpoint soloKey x).1 := by
  rcases h.addEndpoint running x with ⟨entry, result, added, silent, -⟩ | ⟨err, added, -, -⟩ |
    ⟨handler, first, last, new, made, silent, silent', added⟩
  · rw [added]
    exact ⟨ses, h.alike (alike_say silent w), running, (alike_say (s := s) (e := e) silent w).onward⟩
  · rw [added]
    exact ⟨ses, h, running, Onward.refl w⟩
  · have foreign : soloWants e own v.feed (.cycle soloKey ses.nextEpoch) = none := by
      refine if_neg fun hown => ?_
      exact absurd ((hown ▸ h.tracks).epoch_lt h.orderly) (Nat.lt_irrefl _)
    have shown := h.added running new (label_of_create made) (h.tracks.withSlot other)
      (fun _ _ => rfl) (by rw [foreign]; simp) [] (by rw [foreign]; rfl) (by simp)
    rw [List.append_nil] at shown
    rw [added]
    exact ⟨_, (shown.alike (alike_say silent _)).alike (alike_say silent' _), running,
      ((onward_added w _ _ rfl).trans (alike_say (s := s) (e := e) silent _).onward).trans
        (alike_say (s := s) (e := e) silent' _).onward⟩

/-- The endpoint is added. -/
theorem Shows.addEndpoint_own (h : Shows s e own ses w v) (running : ses.running = true)
    (clock : v.now = w.now) {r : Resolved} (named : r.pinned.name = e.name) :
    ∃ own' ses', Shows s e own' ses' (w.addEndpoint soloKey r.pinned).1 (v.track s r) ∧
      ses'.running = true ∧ Onward w (w.addEndpoint soloKey r.pinned).1 := by
  have known := h.tracks.isSome h.orderly
  rw [← named] at known
  have create : Handler.create (fun kind => .ok (Target.of s r.pinned kind)) s r.pinned =
      handlerOf s r.pinned := rfl
  rcases h.addEndpoint running r.pinned with ⟨entry, result, added, silent, there⟩ |
    ⟨err, added, new, made⟩ | ⟨handler, first, last, new, made, silent, silent', added⟩
  · rw [added, Solo.track, if_pos (known.trans there)]
    exact ⟨own, ses, h.alike (alike_say silent w), running,
      (alike_say (s := s) (e := e) silent w).onward⟩
  all_goals
    have unknown : v.feed = none := by simpa [new] using known
    have untracked := h.tracks
    rw [unknown] at untracked
    rw [added, Solo.track, if_neg (by simp [unknown]), create, made]
  · exact ⟨own, ses, h, running, Onward.refl w⟩
  · have wanted : soloWants e (some ses.nextEpoch) (some (handler, .resting v.now))
        (.cycle soloKey ses.nextEpoch) = some (v.now, .poll) := by
      simp [soloWants, Stage.due?]
    have same : ∀ t ∈ w.agenda.tasks, soloWants e (some ses.nextEpoch)
        (some (handler, .resting v.now)) t.work = soloWants e own v.feed t.work := by
      intro t ht
      have employed := h.employed t ht
      generalize t.work = work at employed
      cases work with
      | pass p => rfl
      | cycle key n =>
        have hne : ses.nextEpoch ≠ n := Nat.ne_of_gt employed.2
        simp [soloWants, hne, untracked.1]
      | metrics | opening | notification => rfl
    have tracked : Tracks e (withSlot w.now r.pinned handler ses) (some ses.nextEpoch)
        (some (handler, .resting v.now)) := by
      refine ⟨running, ses.slotFor r.pinned handler, List.mem_append_right _ (List.mem_singleton_self _),
        Polling.Session.newCycle w.now (ses.slotFor r.pinned handler),
        List.mem_append_right _ (List.mem_singleton_self _), named, rfl, rfl, rfl, ?_, rfl⟩
      rw [clock]
      rfl
    have shown := h.added running new (label_of_create made) tracked same
      (by rw [wanted, clock]; simp) [.poll]
      (by rw [wanted]; simp [Agenda.readyJob, clock]) (fun _ => clock)
    exact ⟨_, _, (shown.alike (alike_say silent _)).alike (alike_say silent' _), running,
      ((onward_added w _ _ rfl).trans (alike_say (s := s) (e := e) silent _).onward).trans
        (alike_say (s := s) (e := e) silent' _).onward⟩

/-! ## Turns -/

/-- What is right about work that waits after a turn at some instant, and about the timers that are set
for it: they are set for all that it wants, if it had none, and otherwise for nothing new. -/
structure Turned (s : ServiceConfig) (now : Nat) (ses : Polling.Session Handler) (work : Work)
    (need : Option (Nat × Job)) (work' : Work) (need' : Option (Nat × Job)) (dues : List Nat) :
    Prop where
  employed : Employed s ses work'
  cycle : ∀ key n, work = .cycle key n ∨ work' = .cycle key n → work' = work
  late : ∀ due ∈ dues, now < due
  short : soloLone work' = true → dues.length ≤ 1
  set : soloLone work = true → ∀ due job, need' = some (due, job) → due ∈ dues
  bare : soloLone work = false → dues = [] ∧ soloLone work' = false
  done : soloLone work = false → Agenda.readyJob now need ≠ none → need' = none

end TopicRelay.Simulation
