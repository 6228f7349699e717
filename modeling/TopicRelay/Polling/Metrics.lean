/-
Poll metrics: how many polls were requested, how many of them succeeded and failed, and how many
octets the successful ones brought. Counters wrap around at 2^64.
-/
import TopicRelay.Content.PollError
import TopicRelay.Content.Response
import TopicRelay.Log.Entry

namespace TopicRelay.Polling

open TopicRelay.Content

/-- Something that a poll goes through. -/
inductive PollEvent where
  | request
  | response (r : Response)
  | failure (e : PollError)
  deriving Repr, DecidableEq, Inhabited

/-- Totals of poll events. -/
structure Metrics where
  requests : UInt64 := 0
  successes : UInt64 := 0
  failures : UInt64 := 0
  responseBytes : UInt64 := 0
  deriving Repr, DecidableEq, Inhabited

namespace Metrics

/-- Counts an event. -/
def count (m : Metrics) : PollEvent → Metrics
  | .request => { m with requests := m.requests + 1 }
  | .response r =>
    { m with
      successes := m.successes + 1
      responseBytes := m.responseBytes + r.body.length.toUInt64 }
  | .failure _ => { m with failures := m.failures + 1 }

/-- The log entry of the totals. -/
def summary (m : Metrics) : Log.Entry :=
  { level := .info, event := "poll_metrics_summary", component := "poll_metrics"
    fields := [
      ("requests", .count m.requests.toNat),
      ("successes", .count m.successes.toNat),
      ("failures", .count m.failures.toNat),
      ("response_bytes", .count m.responseBytes.toNat)] }

end Metrics

end TopicRelay.Polling
