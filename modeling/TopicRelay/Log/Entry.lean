/-
Log entries: events with named fields. Entries of a run are listed by the component, service,
endpoint and topic that they concern, those of one such place in the order in which they were
written.
-/
import TopicRelay.Json.Value

namespace TopicRelay.Log

/-- How much an entry matters. -/
inductive Level where
  | debug
  | info
  | warn
  deriving Repr, DecidableEq, Inhabited

/-- The name of a level. -/
def Level.name : Level → String
  | .debug => "DEBUG"
  | .info => "INFO"
  | .warn => "WARN"

/-- The value of a field. -/
inductive Field where
  | text (s : String)
  | count (n : Nat)
  | flag (b : Bool)
  deriving Repr, DecidableEq, Inhabited

/-- One event of a component. -/
structure Entry where
  level : Level
  event : String
  component : String
  fields : List (String × Field) := []
  deriving Repr, DecidableEq, Inhabited

/-- An entry with the time at which it was written, in milliseconds. -/
structure Stamped where
  time : Nat
  entry : Entry
  deriving Repr, DecidableEq, Inhabited

/-- The text of a field, empty if the entry has none of that name. -/
def Entry.textOf (e : Entry) (name : String) : String :=
  match e.fields.lookup name with
  | some (.text s) => s
  | _ => ""

/-- What an entry concerns: component, service, endpoint and topic. -/
def Entry.place (e : Entry) : List String :=
  [e.component, e.textOf "service", e.textOf "endpoint", e.textOf "topic_path"]

/-- Whether texts are not behind others in the order of dictionaries. -/
def notBehind : List String → List String → Bool
  | [], _ => true
  | _ :: _, [] => false
  | a :: as, b :: bs => if a == b then notBehind as bs else decide (a < b)

/-- Whether the place of an entry is not behind that of another. -/
def Stamped.notBehind (a b : Stamped) : Bool :=
  Log.notBehind a.entry.place b.entry.place

/-- The entries by their places, in their order within each. -/
def byPlace (entries : List Stamped) : List Stamped :=
  entries.mergeSort Stamped.notBehind

/-- A field as a JSON value. -/
def Field.value : Field → Json.Value
  | .text s => .text s
  | .count n => .number (.integer n)
  | .flag b => .bool b

/-- An entry as a JSON object. -/
def Stamped.value (s : Stamped) : Json.Value :=
  let e := s.entry
  .ofMembers <| [("event", .text e.event), ("component", .text e.component),
    ("level", .text e.level.name), ("t", .number (.integer s.time))]
    ++ e.fields.map fun (name, f) => (name, f.value)

end TopicRelay.Log
