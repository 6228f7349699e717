/-
The compact written form of a JSON value: no blanks, members in the order of the value, short
escapes where JSON has them and `\u00xx` for the other control characters.
-/
import TopicRelay.Json.Value

namespace TopicRelay.Json

open TopicRelay.Text

/-- One character inside a written string. -/
def escape (c : Char) : List Char :=
  if c == '"' then ['\\', '"']
  else if c == '\\' then ['\\', '\\']
  else if c == '\x08' then ['\\', 'b']
  else if c == '\x0c' then ['\\', 'f']
  else if c == '\n' then ['\\', 'n']
  else if c == '\r' then ['\\', 'r']
  else if c == '\t' then ['\\', 't']
  else if c.toNat < 0x20 then
    ['\\', 'u', '0', '0', digitChar (c.toNat / 16), digitChar (c.toNat % 16)]
  else [c]

/-- A written string. -/
def writeText (s : String) : List Char :=
  '"' :: s.toList.flatMap escape ++ ['"']

/-- A written number. -/
def Number.write : Number → List Char
  | .integer n => Text.integer n
  | .float x => x.text

mutual

/-- The compact written form. -/
def Value.write : Value → List Char
  | .null => "null".toList
  | .bool true => "true".toList
  | .bool false => "false".toList
  | .number n => n.write
  | .text s => writeText s
  | .array [] => ['[', ']']
  | .array (v :: vs) => '[' :: v.write ++ writeItems vs
  | .object [] => ['\x7b', '\x7d']
  | .object ((name, v) :: ms) => '\x7b' :: writeText name ++ ':' :: v.write ++ writeMembers ms

/-- The items after the first, each after a comma, and the closing bracket. -/
def writeItems : List Value → List Char
  | [] => [']']
  | v :: vs => ',' :: v.write ++ writeItems vs

/-- The members after the first, each after a comma, and the closing brace. -/
def writeMembers : List (String × Value) → List Char
  | [] => ['\x7d']
  | (name, v) :: ms => ',' :: writeText name ++ ':' :: v.write ++ writeMembers ms

end

/-- The compact text of a value. -/
def Value.render (v : Value) : String :=
  String.ofList v.write

end TopicRelay.Json
