/-
Reading records from trees. A tree shows its shape; scalars, lists and records are read from shapes,
in the order of the text, and the first thing that does not fit is refused. A record may be written
as an object, whose members come in any order, or as an array of its fields in their order.
-/
import TopicRelay.Text.Quoted

namespace TopicRelay.Config

open TopicRelay.Text

/-- Why something is not the record it should be. -/
inductive Refusal where
  /-- The text breaks the grammar of its format. -/
  | grammar
  | invalidType (found expected : String)
  | invalidValue (found expected : String)
  | invalidLength (length : Nat) (expected : String)
  | unknownField (name : String) (known : List String)
  | duplicateField (name : String)
  | missingField (name : String)
  /-- A scalar that cannot be read. -/
  | scalar (reason : String)
  deriving Repr, DecidableEq, Inhabited

/-- Names between backticks, with commas. -/
def listNames : List String → String
  | [] => ""
  | [n] => "`" ++ n ++ "`"
  | n :: ns => "`" ++ n ++ "`, " ++ listNames ns

/-- What a record accepts as the name of a member. -/
def expectedNames : List String → String
  | [] => "there are no fields"
  | [n] => "expected `" ++ n ++ "`"
  | [n, m] => "expected `" ++ n ++ "` or `" ++ m ++ "`"
  | ns => "expected one of " ++ listNames ns

/-- The text of a refusal. -/
def Refusal.message : Refusal → String
  | .grammar => "not well-formed"
  | .invalidType found expected => "invalid type: " ++ found ++ ", expected " ++ expected
  | .invalidValue found expected => "invalid value: " ++ found ++ ", expected " ++ expected
  | .invalidLength n expected => "invalid length " ++ toString n ++ ", expected " ++ expected
  | .unknownField name known => "unknown field `" ++ name ++ "`, " ++ expectedNames known
  | .duplicateField name => "duplicate field `" ++ name ++ "`"
  | .missingField name => "missing field `" ++ name ++ "`"
  | .scalar reason => reason

/-- What a tree looks like to a reader of records. -/
inductive Shape (τ : Type) where
  | null
  | bool (b : Bool)
  | text (s : String)
  /-- A number, as messages describe it. -/
  | number (description : String)
  /-- The items; `closed` unless the text breaks after them. -/
  | array (items : List τ) (closed : Bool)
  /-- The members in the order of the text; `closed` unless the text breaks after them. -/
  | object (members : List (Except Refusal String × τ)) (closed : Bool)
  /-- A tree that cannot be read. -/
  | fault (r : Refusal)

/-- What becomes of items that an array has beyond the fields of its record. -/
inductive Surplus where
  | ignored
  | refused
  /-- The array has to end where the fields do. -/
  | grammar
  deriving Repr, DecidableEq

/-- How records are read from the trees of a format. -/
structure Format (τ : Type) where
  shape : τ → Shape τ
  /-- An unsigned integer of the given number of bits. -/
  unsigned : Nat → τ → Except Refusal Nat
  /-- How messages describe null. -/
  nullName : String
  surplus : Surplus

namespace Format

variable {τ : Type} (f : Format τ)

/-- How messages describe a tree, unless the tree cannot be read. -/
def describe (t : τ) : Except Refusal String :=
  match f.shape t with
  | .null => .ok f.nullName
  | .bool b => .ok ("boolean `" ++ toString b ++ "`")
  | .text s => .ok ("string " ++ Quoted.encode s)
  | .number description => .ok description
  | .array _ _ => .ok "sequence"
  | .object _ _ => .ok "map"
  | .fault r => .error r

/-- Refuses a tree in place of what is expected. -/
def refuse {α : Type} (expected : String) (t : τ) : Except Refusal α :=
  match f.describe t with
  | .ok found => .error (.invalidType found expected)
  | .error r => .error r

/-- A boolean. -/
def bool (t : τ) : Except Refusal Bool :=
  match f.shape t with
  | .bool b => .ok b
  | _ => f.refuse "a boolean" t

/-- A text. -/
def text (t : τ) : Except Refusal String :=
  match f.shape t with
  | .text s => .ok s
  | _ => f.refuse "a string" t

/-- A value that null stands in for. -/
def optional {α : Type} (read : τ → Except Refusal α) (t : τ) : Except Refusal (Option α) :=
  match f.shape t with
  | .null => .ok none
  | _ => (read t).map some

/-- A list of values. -/
def list {α : Type} (read : τ → Except Refusal α) (t : τ) : Except Refusal (List α) :=
  match f.shape t with
  | .array items closed => do
    let values ← items.mapM read
    if closed then .ok values else .error .grammar
  | _ => f.refuse "a sequence" t

/-- The fields of a record: its name, the names of the fields in their order, how a field is put
into a draft of the record, and how a draft is completed, given what to say of a missing field. -/
structure Schema (τ δ α : Type) where
  name : String
  fields : List String
  empty : δ
  put : String → τ → δ → Except Refusal δ
  complete : (String → Refusal) → δ → Except Refusal α

/-- Puts the members of an object into a draft, in order; `seen` are the names put before. -/
def putMembers {δ α : Type} (s : Schema τ δ α) :
    List String → List (Except Refusal String × τ) → δ → Except Refusal δ
  | _, [], d => .ok d
  | _, (.error r, _) :: _, _ => .error r
  | seen, (.ok name, t) :: rest, d =>
    if !s.fields.contains name then .error (.unknownField name s.fields)
    else if seen.contains name then .error (.duplicateField name)
    else
      match s.put name t d with
      | .ok d => putMembers s (name :: seen) rest d
      | .error r => .error r

/-- Puts the items of an array into a draft, each into the field at its place. -/
def putItems {δ α : Type} (s : Schema τ δ α) :
    List String → List τ → δ → Except Refusal δ
  | name :: names, t :: ts, d =>
    match s.put name t d with
    | .ok d => putItems s names ts d
    | .error r => .error r
  | _, _, d => .ok d

/-- What an array of the fields of a record is called. -/
def lengthExpected {δ α : Type} (s : Schema τ δ α) : String :=
  let n := s.fields.length
  "struct " ++ s.name ++ " with " ++ toString n ++ (if n == 1 then " element" else " elements")

/-- A record, from an object or an array. -/
def record {δ α : Type} (s : Schema τ δ α) (t : τ) : Except Refusal α :=
  match f.shape t with
  | .object members closed => do
    let d ← putMembers s [] members s.empty
    if closed then s.complete .missingField d else .error .grammar
  | .array items closed => do
    let d ← putItems s s.fields items s.empty
    if !closed then .error .grammar
    else
      let a ← s.complete (fun name => .invalidLength (s.fields.idxOf name) (lengthExpected s)) d
      if s.fields.length < items.length then
        match f.surplus with
        | .ignored => .ok a
        | .refused => .error (.invalidLength items.length "fewer elements in array")
        | .grammar => .error .grammar
      else .ok a
  | _ => f.refuse ("struct " ++ s.name) t

end Format

end TopicRelay.Config
