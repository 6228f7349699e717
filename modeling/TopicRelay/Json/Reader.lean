/-
Reading JSON texts. Arrays and objects nest at most 127 deep; a text that nests deeper, or breaks
the grammar elsewhere, gives a node that is marked at the place of the break. Reading a value is
reading a node without a break, to the end of the text.
-/
import TopicRelay.Json.Node
import TopicRelay.Json.Numeral

namespace TopicRelay.Json

open TopicRelay.Text

/-- The blanks of JSON. -/
def isBlank (c : Char) : Bool :=
  c == ' ' || c == '\n' || c == '\t' || c == '\r'

/-- Drops the blanks in front. -/
def skipBlanks (cs : List Char) : List Char :=
  cs.dropWhile isBlank

/-- Four hexadecimal digits; what follows them. -/
def readHex4? : List Char → Option (Nat × List Char)
  | a :: b :: c :: d :: r => do
    let a ← hexValue? a
    let b ← hexValue? b
    let c ← hexValue? c
    let d ← hexValue? d
    return (((a * 16 + b) * 16 + c) * 16 + d, r)
  | _ => none

/-- The character of a `\u` escape, whose digits `cs` starts with: a code point outside the
surrogates, or a leading surrogate followed by the escape of a trailing one. -/
def readUnicode? (cs : List Char) : Option (Char × List Char) := do
  let (n, r) ← readHex4? cs
  if 0xDC00 ≤ n && n ≤ 0xDFFF then none
  else if 0xD800 ≤ n && n ≤ 0xDBFF then
    match r with
    | '\\' :: 'u' :: r =>
      let (m, r) ← readHex4? r
      if 0xDC00 ≤ m && m ≤ 0xDFFF then
        some (Char.ofNat (0x10000 + (n - 0xD800) * 0x400 + (m - 0xDC00)), r)
      else none
    | _ => none
  else some (Char.ofNat n, r)

/-- The character of a one-letter escape. -/
def unescape? : Char → Option Char
  | '"' => some '"'
  | '\\' => some '\\'
  | '/' => some '/'
  | 'b' => some '\x08'
  | 'f' => some '\x0c'
  | 'n' => some '\n'
  | 'r' => some '\r'
  | 't' => some '\t'
  | _ => none

/-- Reads the characters of a string up to its closing quote; what follows the quote. -/
def readChars? : Nat → List Char → Option (List Char × List Char)
  | 0, _ => none
  | _, [] => none
  | fuel + 1, c :: r =>
    if c == '"' then some ([], r)
    else if c == '\\' then
      match r with
      | 'u' :: r => do
        let (c, r) ← readUnicode? r
        let (cs, r) ← readChars? fuel r
        return (c :: cs, r)
      | e :: r => do
        let c ← unescape? e
        let (cs, r) ← readChars? fuel r
        return (c :: cs, r)
      | [] => none
    else if c.toNat < 0x20 then none
    else do
      let (cs, r) ← readChars? fuel r
      return (c :: cs, r)

/-- Reads a string whose opening quote has been read; what follows it. -/
def readText? (cs : List Char) : Option (String × List Char) :=
  (readChars? (cs.length + 1) cs).map fun (s, r) => (String.ofList s, r)

/-- A node, and what follows it unless it ends in a break. -/
abbrev Reading := Node × Option (List Char)

/-- A break. -/
def Reading.broken : Reading := (.broken, none)

/-- Expects the letters of a word; what follows them. -/
def expect? : List Char → List Char → Option (List Char)
  | [], cs => some cs
  | w :: ws, c :: cs => if w == c then expect? ws cs else none
  | _ :: _, [] => none

/-- A word that stands for a node. -/
def readWord (word : String) (node : Node) (cs : List Char) : Reading :=
  match expect? word.toList cs with
  | some r => (node, some r)
  | none => .broken

/-- The items of an array from the next item on, and what follows the closing bracket, unless a
break comes first. -/
def readItems (read : List Char → Reading) : Nat → List Char → List Node × Option (List Char)
  | 0, _ => ([], none)
  | fuel + 1, cs =>
    match read cs with
    | (n, none) => ([n], none)
    | (n, some r) =>
      match skipBlanks r with
      | ']' :: r => ([n], some r)
      | ',' :: r =>
        let (ns, rest) := readItems read fuel r
        (n :: ns, rest)
      | _ => ([n], none)

/-- The members of an object from the next name on, and what follows the closing brace, unless a
break comes first. -/
def readMembers (read : List Char → Reading) :
    Nat → List Char → List (String × Node) × Option (List Char)
  | 0, _ => ([], none)
  | fuel + 1, cs =>
    match skipBlanks cs with
    | '"' :: r =>
      match readText? r with
      | none => ([], none)
      | some (name, r) =>
        match skipBlanks r with
        | ':' :: r =>
          match read r with
          | (n, none) => ([(name, n)], none)
          | (n, some r) =>
            match skipBlanks r with
            | '\x7d' :: r => ([(name, n)], some r)
            | ',' :: r =>
              let (ms, rest) := readMembers read fuel r
              ((name, n) :: ms, rest)
            | _ => ([(name, n)], none)
        | _ => ([(name, .broken)], none)
    | _ => ([], none)

/-- Reads one value that nests at most `depth` arrays and objects. -/
def readNode (depth : Nat) (cs : List Char) : Reading :=
  match skipBlanks cs with
  | [] => .broken
  | 'n' :: r => readWord "ull" .null r
  | 't' :: r => readWord "rue" (.bool true) r
  | 'f' :: r => readWord "alse" (.bool false) r
  | '"' :: r =>
    match readText? r with
    | some (s, r) => (.text s, some r)
    | none => .broken
  | '[' :: r =>
    match depth with
    | 0 => .broken
    | d + 1 =>
      match skipBlanks r with
      | ']' :: r => (.array [] true, some r)
      | r =>
        let (items, rest) := readItems (readNode d) (r.length + 1) r
        (.array items rest.isSome, rest)
  | '\x7b' :: r =>
    match depth with
    | 0 => .broken
    | d + 1 =>
      match skipBlanks r with
      | '\x7d' :: r => (.object [] true, some r)
      | r =>
        let (members, rest) := readMembers (readNode d) (r.length + 1) r
        (.object members rest.isSome, rest)
  | c :: r =>
    if c == '-' || c.isDigit then
      match readNumber? (c :: r) with
      | some (n, r) => (.number n, some r)
      | none => .broken
    else .broken

/-- The greatest depth of nested arrays and objects. -/
def depthLimit : Nat := 127

/-- A whole text: a node, and whether nothing but blanks follows it. -/
def readText (cs : List Char) : Node × Bool :=
  let (n, rest) := readNode depthLimit cs
  (n, match rest with
    | some r => (skipBlanks r).isEmpty
    | none => false)

/-- Reads a whole text as a value. -/
def parse? (s : String) : Option Value :=
  match readText s.toList with
  | (n, true) => n.value?
  | (_, false) => none

end TopicRelay.Json
