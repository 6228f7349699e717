/-
The lifecycle in the world: what it and the service manager bring about takes place here, attempts to
open a broker session go on, and the model feed hands models over.
-/
import TopicRelay.Simulation.BringUp

namespace TopicRelay.Simulation.World

open TopicRelay.Broker TopicRelay.Config TopicRelay.Content TopicRelay.Control
open TopicRelay.Polling TopicRelay.Publication

/-! ## Services -/

/-- Does something to a service. A service that is launched is announced, and brought up each time
its source becomes active. -/
def performChore (w : World) : Chore → World
  | .stop r => w.stopSession r.session
  | .remove r =>
    let (w, result) := w.removeService r.context.client r.config
    w.say (Services.removedEntry r result)
  | .launch r =>
    let w := w.addMember
      { key := r.session, session := { service := r.config }, client := r.context.client
        counted := r.context.observed }
    let w := w.announce r.context.client r.config
    let (w, n) := w.addSource r.context.client r.config
    w.attach r.context.client n (hooksOf r)

/-- Lets an effect on the running services take place. -/
def performServices (w : World) : ServicesEffect → World
  | .log e => w.say e
  | e => e.chores.foldl performChore w

/-! ## The lifecycle -/

/-- Closes a broker session. -/
def closeBroker (s : Broker.Session) (w : World) : World :=
  match s.client with
  | .standIn => { w with broker := w.broker.close s.number }
  | .logOnly _ =>
    let (r, told) := (w.registry s.client).closeAll
    ((w.setRegistry s.client r).heed told).say (LogOnly.closedEntry s.id)

/-- Lets an effect of the lifecycle take place. -/
def performLifecycle (w : World) : LifecycleEffect → World
  | .log e => w.say e
  | .services e => w.performServices e
  | .httpBuilt _ => { w.record .httpBuilt with httpLayers := w.httpLayers + 1 }
  | .openSession generation broker trust =>
    { w with agenda := w.agenda.spawn (.opening { generation, broker, trust }) }
  | .closeSession s => w.closeBroker s
  | .shutdown => { w.record .shutdown with shutdowns := w.shutdowns + 1 }

/-- Why no HTTP layer can be built while that is made to fail. -/
def httpFailure : PollError :=
  .clientUnavailable "scripted HTTP layer failure"

/-- What the lifecycle finds in the world. -/
def surroundings (w : World) : Surroundings :=
  { trust := Trust.Context.ofModel w.files
    httpFailure := if w.httpFails then some httpFailure else none }

/-- Hands an event to the lifecycle; without one nothing happens. -/
def drive (ev : LifecycleEvent) (w : World) : World × Option LifecycleError :=
  match w.lifecycle with
  | none => (w, none)
  | some l =>
    let course := l.step w.surroundings ev
    (course.effects.foldl performLifecycle { w with lifecycle := some course.life }, course.error)

/-! ## Broker sessions -/

/-- Takes the result of an attempt to the lifecycle. Without a lifecycle an opened session is
closed. -/
def finishOpening (generation : Nat) (result : Except ConnectionError Broker.Session) (w : World) :
    World :=
  match w.lifecycle, result with
  | some _, _ => (w.drive (.opened generation result)).1
  | none, .ok s => w.closeBroker s
  | none, .error _ => w

/-- Ends the attempt of a number at the stand-in broker. -/
def answerOpening (o : Opening) (attempt : Nat) (w : World) : World :=
  match w.broker.failure with
  | some e => w.finishOpening o.generation (.error e)
  | none =>
    let session : Broker.Session :=
      { id := "fake-session-" ++ toString attempt, number := w.broker.sessions.length
        client := .standIn, broker := o.broker, trust := o.trust }
    let opened : OpenedSession := { session, generation := o.generation }
    { w with broker := { w.broker with sessions := w.broker.sessions ++ [opened] } }.finishOpening
      o.generation (.ok session)

/-- Opens a session of the log-only broker. -/
def openLogOnly (o : Opening) (w : World) : World :=
  let session := LogOnly.session w.logClients.length o.broker o.trust
  let w := { w with logClients := w.logClients ++ [Registry.empty] }
  (w.say (LogOnly.openedEntry session)).finishOpening o.generation (.ok session)

/-- A turn of an attempt, run by the task of a number: the attempt after it, unless it has ended. -/
def turnOpening (id : Nat) (o : Opening) (w : World) : World × Option Opening :=
  match o.phase with
  | .released attempt => (w.answerOpening o attempt, none)
  | .held _ => (w, some o)
  | .fresh =>
    let w := w.record (.opening
      { generation := o.generation, host := o.broker.host, port := o.broker.port.toNat
        certificates := o.trust.map (·.certificates.length) })
    let w := { w with attempts := w.attempts ++ [o.generation] }
    if w.logOnly then (w.openLogOnly o, none)
    else
      let attempt := w.broker.openCalls + 1
      let b := { w.broker with openCalls := attempt }
      if b.holds && !b.released then
        ({ w with broker := { b with waiting := b.waiting ++ [id] } },
          some { o with phase := .held attempt })
      else if b.holds then
        ({ w with broker := { b with released := false } }.answerOpening o attempt, none)
      else ({ w with broker := b }.answerOpening o attempt, none)

/-- Lets a task go on that is held back. -/
def releaseTask (id : Nat) (w : World) : World :=
  let release : Work → Work
    | .opening o =>
      match o.phase with
      | .held attempt => .opening { o with phase := .released attempt }
      | _ => .opening o
    | work => work
  { w with agenda := (w.agenda.mapTask id fun t => { t with work := release t.work }).wake id }

/-- Lets the attempt go on that waits longest, or else the next one that would be held back. -/
def releaseOne (w : World) : World :=
  match w.broker.waiting with
  | [] => { w with broker := { w.broker with released := true } }
  | id :: rest => { w with broker := { w.broker with waiting := rest } }.releaseTask id

/-! ## The model feed -/

/-- Whether work is a recurring log of the poll metrics. -/
def isMetrics (t : MetricsTask) : Work → Bool
  | .metrics u _ => u == t
  | _ => false

/-- Lets an effect of the model feed take place. -/
def performFeed (w : World) : FeedEffect → World
  | .cancelMetrics t => { w with agenda := w.agenda.abortWhere (isMetrics t) }
  | .startMetrics t => { w with agenda := w.agenda.spawn (.metrics t none) }
  | .apply m =>
    let (w, error) := w.drive (.reconfigure m)
    match error with
    | some e => w.say (ModelFeed.failedEntry e)
    | none => w

/-- Offers a model to the model feed, which is there from the first offer on. -/
def offer (m : Model) (w : World) : World :=
  match w.lifecycle with
  | none => w
  | some l =>
    let (r, effects) := (w.feed.getD {}).offer l.state m
    effects.foldl performFeed { w with feed := some r }

/-- Drops the lifecycle and the model feed. -/
def dropLifecycle (w : World) : World :=
  let tasks := (w.feed.bind (·.task)).toList
  tasks.foldl (fun w t => w.performFeed (.cancelMetrics t))
    { w with lifecycle := none, feed := none }

end TopicRelay.Simulation.World
