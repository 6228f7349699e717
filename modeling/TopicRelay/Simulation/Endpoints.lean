/-
Scripted endpoints: each answers its requests with the answers queued for it, then with the one that
it repeats, after its delay. An endpoint without a script refuses.
-/
import TopicRelay.Polling.Session

namespace TopicRelay.Simulation

open TopicRelay.Content TopicRelay.Polling

/-- How an endpoint answers, and what it saw. -/
structure Script where
  queued : List Answer := []
  repeated : Option Answer := none
  delay : Nat := 0
  /-- How many requests are under way. -/
  inFlight : Nat := 0
  /-- The most requests that were ever under way at once. -/
  maxInFlight : Nat := 0
  deriving Repr, Inhabited

/-- What an endpoint without a script answers. -/
def noAnswer (name : String) : Answer :=
  .error (.transport ("no scripted response for " ++ name))

/-- The next answer of an endpoint. -/
def Script.answer (name : String) (s : Script) : Answer :=
  match s.queued with
  | a :: _ => a
  | [] => s.repeated.getD (noAnswer name)

/-- Endpoints by their names. -/
structure Endpoints where
  scripts : List (String × Script) := []
  deriving Repr, Inhabited

namespace Endpoints

/-- The script of an endpoint. -/
def script (es : Endpoints) (name : String) : Script :=
  (es.scripts.lookup name).getD {}

/-- Changes the script of an endpoint. -/
def update (name : String) (f : Script → Script) (es : Endpoints) : Endpoints :=
  if es.scripts.any fun p => p.1 == name then
    ⟨es.scripts.map fun p => if p.1 == name then (p.1, f p.2) else p⟩
  else ⟨es.scripts ++ [(name, f {})]⟩

/-- A request begins: its answer, and how long the endpoint takes for it. -/
def request (name : String) (es : Endpoints) : Endpoints × Answer × Nat :=
  let s := es.script name
  (es.update name fun s =>
      { s with
        queued := s.queued.tail
        inFlight := s.inFlight + 1
        maxInFlight := max s.maxInFlight (s.inFlight + 1) },
    s.answer name, s.delay)

/-- A request is answered or abandoned. -/
def release (name : String) (es : Endpoints) : Endpoints :=
  es.update name fun s => { s with inFlight := s.inFlight - 1 }

end Endpoints

end TopicRelay.Simulation
