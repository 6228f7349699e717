/-
The formats that configurations are written in: JSON texts, JSON values and JSON5 texts. They differ
in what counts as an unsigned integer, in how messages describe null and floating point numbers, and
in what becomes of surplus items where an array stands for a record.
-/
import TopicRelay.Config.Record
import TopicRelay.Json.Reader
import TopicRelay.Json5.Tree

namespace TopicRelay.Config

open TopicRelay.Decimal TopicRelay.Text

/-! ## JSON -/

/-- How messages describe a JSON number. -/
def describeNumber : Json.Number → String
  | .integer n => "integer `" ++ String.ofList (integer n) ++ "`"
  | .float x => "floating point `" ++ String.ofList x.text ++ "`"

/-- The shape of a JSON node. -/
def nodeShape : Json.Node → Shape Json.Node
  | .null => .null
  | .bool b => .bool b
  | .number n => .number (describeNumber n)
  | .text s => .text s
  | .array items closed => .array items closed
  | .object members closed => .object (members.map fun (name, n) => (.ok name, n)) closed
  | .broken => .fault .grammar

/-- The type of an unsigned integer in messages. -/
def unsignedName (bits : Nat) : String :=
  "u" ++ toString bits

/-- An integer within the range, without a point or an exponent. -/
def nodeUnsigned (bits : Nat) (n : Json.Node) : Except Refusal Nat :=
  match n with
  | .number (.integer (.ofNat v)) =>
    if v < twoTo bits then .ok v
    else .error (.invalidValue (describeNumber (.integer v)) (unsignedName bits))
  | .number (.integer v) =>
    .error (.invalidValue (describeNumber (.integer v)) (unsignedName bits))
  | .number x => .error (.invalidType (describeNumber x) (unsignedName bits))
  | .null => .error (.invalidType "null" (unsignedName bits))
  | .bool b => .error (.invalidType ("boolean `" ++ toString b ++ "`") (unsignedName bits))
  | .text s => .error (.invalidType ("string " ++ Quoted.encode s) (unsignedName bits))
  | .array _ _ => .error (.invalidType "sequence" (unsignedName bits))
  | .object _ _ => .error (.invalidType "map" (unsignedName bits))
  | .broken => .error .grammar

/-- JSON texts. -/
def jsonText : Format Json.Node where
  shape := nodeShape
  unsigned := nodeUnsigned
  nullName := "null"
  surplus := .grammar

/-- JSON values. -/
def jsonValue : Format Json.Node where
  shape := nodeShape
  unsigned := nodeUnsigned
  nullName := "null"
  surplus := .refused

/-! ## JSON5 -/

/-- A numeral as messages describe it, if it can be read. -/
def describeNumeral (cs : List Char) : Except Refusal String :=
  if Json5.isIntegral cs then
    match Json5.integerOf cs with
    | .ok n => .ok ("integer `" ++ String.ofList (integer n) ++ "`")
    | .error e => .error (.scalar e.message)
  else
    match Json5.realOf cs with
    | .ok x => .ok ("floating point `" ++ String.ofList x.text ++ "`")
    | .error e => .error (.scalar e.message)

/-- A string or name, unless its escapes are wrong. -/
def joinedText (s : Json5.Joined) : Except Refusal String :=
  s.mapError fun fault => .scalar fault.message

/-- The shape of a JSON5 tree. -/
def treeShape : Json5.Tree → Shape Json5.Tree
  | .null => .null
  | .bool b => .bool b
  | .numeral cs =>
    match describeNumeral cs with
    | .ok description => .number description
    | .error r => .fault r
  | .text s =>
    match joinedText s with
    | .ok s => .text s
    | .error r => .fault r
  | .array items => .array items true
  | .object members => .object (members.map fun (name, t) => (joinedText name, t)) true

/-- Any numeral, brought into the range. -/
def treeUnsigned (bits : Nat) : Json5.Tree → Except Refusal Nat
  | .numeral cs => (Json5.unsignedOf bits cs).mapError fun e => .scalar e.message
  | _ => .error (.scalar Json5.NumeralFault.number.message)

/-- JSON5 texts. -/
def json5Text : Format Json5.Tree where
  shape := treeShape
  unsigned := treeUnsigned
  nullName := "unit value"
  surplus := .ignored

end TopicRelay.Config
