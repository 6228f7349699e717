/-
Strings and names of JSON5 as sequences of components, and the text that a sequence stands for. A
surrogate escape is joined with the component after it, which has to read as a hexadecimal number
in the range of trailing surrogates, however it is written.
-/
import TopicRelay.Json5.Letters
import TopicRelay.Text.Digits

namespace TopicRelay.Json5

open TopicRelay.Text

/-- One component of a string or name. -/
inductive Component where
  /-- A character that stands for itself. -/
  | literal (c : Char)
  /-- A character after a backslash. -/
  | escaped (c : Char)
  /-- `\0` -/
  | nul
  /-- The two digits after `\x`. -/
  | hex (digits : List Char)
  /-- The four digits after `\u`. -/
  | unicode (digits : List Char)
  deriving Repr, DecidableEq

/-- Why a sequence of components stands for no text. -/
inductive TextFault where
  | strayTrail
  | noTrail
  | missingTrail
  | notHexadecimal
  deriving Repr, DecidableEq

/-- The text of a fault. -/
def TextFault.message : TextFault → String
  | .strayTrail => "unexpected unicode trail surrogate"
  | .noTrail => "expecting unicode trail surrogate"
  | .missingTrail => "missing unicode trail surrogate"
  | .notHexadecimal => "error parsing hex"

/-- The number that hexadecimal digits write. -/
def hexNumber? : List Char → Option Nat
  | [] => none
  | cs => cs.foldl (fun acc c => acc.bind fun n => (hexValue? c).map (n * 16 + ·)) (some 0)

/-- The number that a component writes, read as hexadecimal digits. -/
def Component.number? : Component → Option Nat
  | .literal c | .escaped c => hexNumber? [c]
  | .nul => some 0
  | .hex digits | .unicode digits => hexNumber? digits

/-- The character of an escape. -/
def unescape : Char → Char
  | 'b' => '\x08'
  | 'f' => '\x0c'
  | 'n' => '\n'
  | 'r' => '\r'
  | 't' => '\t'
  | 'v' => '\x0b'
  | c => c

/-- The characters that components stand for. -/
def joinComponents : List Component → Except TextFault (List Char)
  | [] => .ok []
  | .literal c :: r => (joinComponents r).map (c :: ·)
  | .escaped c :: r => (joinComponents r).map (unescape c :: ·)
  | .nul :: r => (joinComponents r).map ('\x00' :: ·)
  | .hex digits :: r =>
    match hexNumber? digits with
    | some n => (joinComponents r).map (Char.ofNat n :: ·)
    | none => .error .notHexadecimal
  | .unicode digits :: r =>
    match hexNumber? digits with
    | none => .error .notHexadecimal
    | some n =>
      if 0xDC00 ≤ n && n ≤ 0xDFFF then .error .strayTrail
      else if 0xD800 ≤ n && n ≤ 0xDBFF then
        match r with
        | [] => .error .missingTrail
        | next :: r =>
          match next.number? with
          | none => .error .notHexadecimal
          | some m =>
            if 0xDC00 ≤ m && m ≤ 0xDFFF then
              (joinComponents r).map
                (Char.ofNat (0x10000 + (n - 0xD800) * 0x400 + (m - 0xDC00)) :: ·)
            else .error .noTrail
      else (joinComponents r).map (Char.ofNat n :: ·)

/-- Whether a character ends a line. -/
def isLineEnd (c : Char) : Bool :=
  c == '\n' || c == '\r' || c.toNat == 0x2028 || c.toNat == 0x2029

/-- Takes `n` hexadecimal digits; what follows them. -/
def takeHex? (n : Nat) (cs : List Char) : Option (List Char × List Char) :=
  let digits := cs.take n
  if digits.length == n && digits.all fun c => (hexValue? c).isSome then
    some (digits, cs.drop n)
  else none

/-- The component after a backslash inside a string, none for a continued line; what follows. -/
def readEscape? : List Char → Option (Option Component × List Char)
  | [] => none
  | '\r' :: '\n' :: r => some (none, r)
  | '0' :: r => some (some .nul, r)
  | 'x' :: r => (takeHex? 2 r).map fun (d, r) => (some (.hex d), r)
  | 'u' :: r => (takeHex? 4 r).map fun (d, r) => (some (.unicode d), r)
  | c :: r =>
    if isLineEnd c then some (none, r)
    else if c.isDigit then none
    else some (some (.escaped c), r)

/-- The components of a string up to the closing quote; what follows the quote. -/
def readComponents? (quote : Char) : Nat → List Char → Option (List Component × List Char)
  | 0, _ => none
  | _, [] => none
  | fuel + 1, c :: r =>
    if c == quote then some ([], r)
    else if c == '\\' then do
      let (component, r) ← readEscape? r
      let (components, r) ← readComponents? quote fuel r
      return (component.toList ++ components, r)
    else if isLineEnd c then none
    else do
      let (components, r) ← readComponents? quote fuel r
      return (.literal c :: components, r)

/-- The components of a name from its second character on; what follows the name. -/
def readNameParts : Nat → List Char → List Component × List Char
  | 0, cs => ([], cs)
  | fuel + 1, cs =>
    match cs with
    | '\\' :: 'u' :: r =>
      match takeHex? 4 r with
      | some (d, r) =>
        let (parts, r) := readNameParts fuel r
        (.unicode d :: parts, r)
      | none => ([], cs)
    | c :: r =>
      if isNamePart c then
        let (parts, r) := readNameParts fuel r
        (.literal c :: parts, r)
      else ([], cs)
    | [] => ([], [])

/-- The components of a name; what follows it. -/
def readName? (cs : List Char) : Option (List Component × List Char) :=
  match cs with
  | '\\' :: 'u' :: r => do
    let (d, r) ← takeHex? 4 r
    let (parts, r) := readNameParts r.length r
    return (.unicode d :: parts, r)
  | c :: r =>
    if isNameStart c then
      let (parts, r) := readNameParts r.length r
      some (.literal c :: parts, r)
    else none
  | [] => none

end TopicRelay.Json5
