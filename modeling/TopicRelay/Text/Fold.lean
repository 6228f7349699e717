/-
Case folding of the letters `A` to `Z` alone. Header names, media types and charset names are
compared up to this folding; a letter outside ASCII never changes and never matches another.
-/

namespace TopicRelay.Text

/-- The text with `A` to `Z` in lower case. -/
def lowerChars (cs : List Char) : List Char :=
  cs.map Char.toLower

/-- The text with `A` to `Z` in lower case. -/
def lower (s : String) : String :=
  String.ofList (lowerChars s.toList)

/-- Equality up to the case of `A` to `Z`. -/
def sameFold (a b : List Char) : Bool :=
  lowerChars a == lowerChars b

end TopicRelay.Text
