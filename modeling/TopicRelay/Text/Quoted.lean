/-
Quoted text in diagnostics: a text between double quotes, in which tab, line ends, NUL, the quote
and the backslash have short escapes and every other hidden character is written by its number.
-/
import TopicRelay.Text.Digits
import TopicRelay.Text.Printable

namespace TopicRelay.Text.Quoted

/-- One character as it stands between the quotes. -/
def escape (c : Char) : List Char :=
  if c == '\x00' then ['\\', '0']
  else if c == '\t' then ['\\', 't']
  else if c == '\r' then ['\\', 'r']
  else if c == '\n' then ['\\', 'n']
  else if c == '"' then ['\\', '"']
  else if c == '\\' then ['\\', '\\']
  else if isShown c then [c]
  else '\\' :: 'u' :: '\x7b' :: hexadecimal c.toNat ++ ['\x7d']

/-- The characters between double quotes, each escaped as needed. -/
def encodeChars (cs : List Char) : List Char :=
  '"' :: cs.flatMap escape ++ ['"']

/-- The text between double quotes, each character escaped as needed. -/
def encode (s : String) : String :=
  String.ofList (encodeChars s.toList)

/-! ## Written forms -/

example : encode "a\"b\\\n" = "\"a\\\"b\\\\\\n\"" := by decide +kernel

/-- A hidden character is written by its number. -/
example : encodeChars [Char.ofNat 0x7F] = "\"\\u\x7b7f\x7d\"".toList := by decide +kernel

end TopicRelay.Text.Quoted
