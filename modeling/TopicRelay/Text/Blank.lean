/-
Blank characters of running text: the code points with the Unicode property White_Space, and the
removal of blanks at the two ends of a text.
-/

namespace TopicRelay.Text

/-- The code points of the property White_Space. -/
def isBlank (c : Char) : Bool :=
  let n := c.toNat
  (9 ≤ n && n ≤ 13) || n == 0x20 || n == 0x85 || n == 0xA0 || n == 0x1680
    || (0x2000 ≤ n && n ≤ 0x200A) || n == 0x2028 || n == 0x2029 || n == 0x202F || n == 0x205F
    || n == 0x3000

/-- Drops the longest tail whose characters all satisfy `p`. -/
def dropTail (p : Char → Bool) (cs : List Char) : List Char :=
  (cs.reverse.dropWhile p).reverse

/-- Drops at both ends the characters that satisfy `p`. -/
def stripBoth (p : Char → Bool) (cs : List Char) : List Char :=
  dropTail p (cs.dropWhile p)

/-- Drops the blanks at both ends. -/
def trimChars (cs : List Char) : List Char :=
  stripBoth isBlank cs

/-- Drops the blanks at both ends of a text. -/
def trim (s : String) : String :=
  String.ofList (trimChars s.toList)

end TopicRelay.Text
