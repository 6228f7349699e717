/-
The grammar of JSON5: comments, names without quotes, single quotes, trailing commas. Reading gives
a tree whose numerals are kept as written and whose strings are joined or carry the fault of their
escapes, since both show only when the value is used.
-/
import TopicRelay.Json5.Numeral

namespace TopicRelay.Json5

/-- A string or name: its text, or why it has none. -/
abbrev Joined := Except TextFault String

/-- A JSON5 value. -/
inductive Tree where
  | null
  | bool (b : Bool)
  | numeral (cs : List Char)
  | text (s : Joined)
  | array (items : List Tree)
  | object (members : List (Joined × Tree))
  deriving Inhabited

/-- The text that components stand for. -/
def join (components : List Component) : Joined :=
  (joinComponents components).map String.ofList

/-- The blanks of JSON5. -/
def isBlank (c : Char) : Bool :=
  let n := c.toNat
  c == '\t' || n == 0x0B || n == 0x0C || c == ' ' || n == 0xA0 || n == 0xFEFF || n == 0x1680
    || (0x2000 ≤ n && n ≤ 0x200A) || n == 0x202F || n == 0x205F || n == 0x3000 || isLineEnd c

/-- What follows the end of a comment between `/*` and `*/`. -/
def skipComment? : List Char → Option (List Char)
  | '*' :: '/' :: r => some r
  | _ :: r => skipComment? r
  | [] => none

/-- Drops blanks and comments in front. -/
def skip : Nat → List Char → List Char
  | 0, cs => cs
  | fuel + 1, cs =>
    match cs with
    | '/' :: '/' :: r => skip fuel (r.dropWhile fun c => !isLineEnd c)
    | '/' :: '*' :: r =>
      match skipComment? r with
      | some r => skip fuel r
      | none => cs
    | c :: r => if isBlank c then skip fuel r else cs
    | [] => []

/-- Drops blanks and comments in front. -/
def skipAll (cs : List Char) : List Char :=
  skip cs.length cs

/-- A string; what follows it. -/
def readText? (cs : List Char) : Option (Joined × List Char) :=
  match cs with
  | '\x27' :: r => (readComponents? '\x27' (r.length + 1) r).map fun (s, r) => (join s, r)
  | '"' :: r => (readComponents? '"' (r.length + 1) r).map fun (s, r) => (join s, r)
  | _ => none

/-- The name of a member; what follows it. -/
def readKey? (cs : List Char) : Option (Joined × List Char) :=
  match readName? cs with
  | some (s, r) => some (join s, r)
  | none => readText? cs

/-- The items of an array from the next one on; what follows the closing bracket. -/
def readItems? (read : List Char → Option (Tree × List Char)) :
    Nat → List Char → Option (List Tree × List Char)
  | 0, _ => none
  | fuel + 1, cs =>
    match skipAll cs with
    | ']' :: r => some ([], r)
    | cs => do
      let (t, r) ← read cs
      match skipAll r with
      | ']' :: r => some ([t], r)
      | ',' :: r =>
        let (ts, r) ← readItems? read fuel r
        some (t :: ts, r)
      | _ => none

/-- The members of an object from the next one on; what follows the closing brace. -/
def readMembers? (read : List Char → Option (Tree × List Char)) :
    Nat → List Char → Option (List (Joined × Tree) × List Char)
  | 0, _ => none
  | fuel + 1, cs =>
    match skipAll cs with
    | '\x7d' :: r => some ([], r)
    | cs => do
      let (name, r) ← readKey? cs
      match skipAll r with
      | ':' :: r =>
        let (t, r) ← read r
        match skipAll r with
        | '\x7d' :: r => some ([(name, t)], r)
        | ',' :: r =>
          let (ms, r) ← readMembers? read fuel r
          some ((name, t) :: ms, r)
        | _ => none
      | _ => none

/-- A value that nests at most `depth` arrays and objects; what follows it. -/
def readTree? (depth : Nat) (cs : List Char) : Option (Tree × List Char) :=
  let cs := skipAll cs
  match expect? "null".toList cs with
  | some r => some (.null, r)
  | none =>
    match expect? "true".toList cs with
    | some r => some (.bool true, r)
    | none =>
      match expect? "false".toList cs with
      | some r => some (.bool false, r)
      | none =>
        match readText? cs with
        | some (s, r) => some (.text s, r)
        | none =>
          match spanNumeral? cs with
          | some (n, r) => some (.numeral n, r)
          | none =>
            match depth, cs with
            | d + 1, '\x7b' :: r =>
              (readMembers? (readTree? d) (r.length + 1) r).map fun (ms, r) => (.object ms, r)
            | d + 1, '[' :: r =>
              (readItems? (readTree? d) (r.length + 1) r).map fun (ts, r) => (.array ts, r)
            | _, _ => none

/-- Reads a whole text. -/
def read? (cs : List Char) : Option Tree := do
  let (t, r) ← readTree? (cs.length + 1) cs
  if (skipAll r).isEmpty then some t else none

end TopicRelay.Json5
