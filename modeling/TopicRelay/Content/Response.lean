/-
Responses of endpoints. Header names fold the case of `A` to `Z`: a header set again under another
spelling replaces the earlier one, and any spelling finds it. Main statement: the header that is
found is the one set last.
-/
import TopicRelay.Text.Fold
import TopicRelay.Text.Utf8

namespace TopicRelay.Content

open TopicRelay.Text

/-- Status, headers and body of an answered request. -/
structure Response where
  status : Nat
  headers : List (String × String) := []
  body : Octets := []
  deriving Repr, DecidableEq, Inhabited

namespace Response

/-- Sets the value of a name, in place if it is there and at the end if it is not. -/
def putHeader (name value : String) : List (String × String) → List (String × String)
  | [] => [(name, value)]
  | (n, v) :: r => if n == name then (n, value) :: r else (n, v) :: putHeader name value r

/-- The response with one more header. -/
def setHeader (r : Response) (name value : String) : Response :=
  { r with headers := putHeader (lower name) value r.headers }

/-- The value of a header. -/
def header (r : Response) (name : String) : Option String :=
  r.headers.lookup (lower name)

/-- The media type with its parameters. -/
def contentType (r : Response) : Option String :=
  r.header "content-type"

/-! ## Headers -/

theorem lookup_putHeader (name value : String) (hs : List (String × String)) (n : String) :
    (putHeader name value hs).lookup n = if n == name then some value else hs.lookup n := by
  induction hs with
  | nil => cases h : n == name <;> simp [putHeader, h]
  | cons p r ih =>
    obtain ⟨m, v⟩ := p
    by_cases hm : m = name
    · subst hm
      cases h : n == m <;> simp [putHeader, List.lookup_cons, h]
    · cases h : n == m with
      | true =>
        have hn : (n == name) = false := by simp_all
        simp [putHeader, List.lookup_cons, h, hm, hn]
      | false => simp [putHeader, List.lookup_cons, h, hm, ih]

/-- The header that is found is the one set last. -/
theorem header_setHeader (r : Response) (name value other : String) :
    (r.setHeader name value).header other =
      if lower other == lower name then some value else r.header other := by
  simp [setHeader, header, lookup_putHeader]

end Response

end TopicRelay.Content
