/-
What has been read of a JSON text. A node keeps the members of an object in the order of the text,
repeated names included, and marks the place where the text stops being JSON: everything before
that place is there, so a reader of records can refuse the first thing that is wrong, be it in the
record or in the grammar.
-/
import TopicRelay.Json.Value

namespace TopicRelay.Json

/-- A JSON text up to the first place where it breaks the grammar. -/
inductive Node where
  | null
  | bool (b : Bool)
  | number (n : Number)
  | text (s : String)
  /-- The items; `closed` if the closing bracket was reached. -/
  | array (items : List Node) (closed : Bool)
  /-- The members in the order of the text; `closed` if the closing brace was reached. -/
  | object (members : List (String × Node)) (closed : Bool)
  /-- Not a value. -/
  | broken
  deriving Repr, Inhabited

namespace Node

mutual

/-- The value of a text without a break. -/
def value? : Node → Option Value
  | .null => some .null
  | .bool b => some (.bool b)
  | .number n => some (.number n)
  | .text s => some (.text s)
  | .array items closed => if closed then (values? items).map .array else none
  | .object members closed => if closed then (members? members).map Value.ofMembers else none
  | .broken => none

/-- The values of a list of nodes without a break. -/
def values? : List Node → Option (List Value)
  | [] => some []
  | n :: ns =>
    match value? n, values? ns with
    | some v, some vs => some (v :: vs)
    | _, _ => none

/-- The members of an object without a break, in the order of the text. -/
def members? : List (String × Node) → Option (List (String × Value))
  | [] => some []
  | (name, n) :: ms =>
    match value? n, members? ms with
    | some v, some vs => some ((name, v) :: vs)
    | _, _ => none

end

mutual

/-- The node of a value. -/
def ofValue : Value → Node
  | .null => .null
  | .bool b => .bool b
  | .number n => .number n
  | .text s => .text s
  | .array items => .array (ofValues items) true
  | .object members => .object (ofMembers members) true

/-- The nodes of a list of values. -/
def ofValues : List Value → List Node
  | [] => []
  | v :: vs => ofValue v :: ofValues vs

/-- The nodes of the members of an object. -/
def ofMembers : List (String × Value) → List (String × Node)
  | [] => []
  | (name, v) :: ms => (name, ofValue v) :: ofMembers ms

end

end Node

end TopicRelay.Json
