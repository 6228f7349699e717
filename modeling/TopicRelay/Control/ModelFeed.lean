/-
Model feeds: models that are offered again and again are handed to the lifecycle when they changed,
or when the lifecycle is recovering, and the recurring log of the poll metrics is kept in step.
-/
import TopicRelay.Control.Lifecycle

namespace TopicRelay.Control

open TopicRelay.Config TopicRelay.Log

/-- The recurring log of the poll metrics. -/
structure MetricsTask where
  number : Nat
  interval : Nat
  deriving Repr, DecidableEq, Inhabited

/-- What an offer brings about. -/
inductive FeedEffect where
  | cancelMetrics (t : MetricsTask)
  | startMetrics (t : MetricsTask)
  /-- The lifecycle is handed a model. -/
  | apply (m : Model)
  deriving Repr, DecidableEq

/-- What was offered last, and the recurring log that goes with it. -/
structure ModelFeed where
  current : Option Model := none
  task : Option MetricsTask := none
  /-- How many recurring logs have been started. -/
  started : Nat := 0
  deriving Repr, DecidableEq, Inhabited

namespace ModelFeed

/-- The recurring log that metrics settings ask for. -/
def wanted (number : Nat) (m : MetricsConfig) : Option MetricsTask :=
  if m.logging && m.loggingIntervalMs != 0 then
    some { number, interval := m.loggingIntervalMs.toNat }
  else none

/-- Takes a model while the lifecycle is in a state. -/
def offer (state : AdapterState) (m : Model) (r : ModelFeed) : ModelFeed × List FeedEffect :=
  if r.current = some m ∧ state ≠ .recovering then (r, [])
  else if r.current.map (·.metrics) = some m.metrics then
    ({ r with current := some m }, [.apply m])
  else
    let task := wanted r.started m.metrics
    ({ current := some m, task, started := r.started + task.toList.length },
      (r.task.map .cancelMetrics).toList ++ (task.map .startMetrics).toList ++ [.apply m])

/-- An entry that a model was applied with errors. -/
def failedEntry (e : LifecycleError) : Entry :=
  { level := .warn, event := "config_reconfigure_failed", component := "configurable_rest_adapter"
    fields := [("err", .text e.message)] }

end ModelFeed

end TopicRelay.Control
