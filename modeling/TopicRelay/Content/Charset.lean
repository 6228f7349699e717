/-
The text of a response body. The first `charset` parameter of the media type decides: UTF-8 under
any of its names, which is also the default, or Latin-1; any other charset is refused.
-/
import TopicRelay.Content.Response
import TopicRelay.Text.Blank

namespace TopicRelay.Content

open TopicRelay.Text

/-- The pieces of a text between separators. -/
def splitOnChar (sep : Char) : List Char → List (List Char)
  | [] => [[]]
  | c :: r =>
    match splitOnChar sep r with
    | [] => [[c]]
    | p :: ps => if c == sep then [] :: p :: ps else (c :: p) :: ps

/-- Cuts a parameter at its first equals sign. -/
def splitParameter? : List Char → Option (List Char × List Char)
  | [] => none
  | c :: r => if c == '=' then some ([], r) else (splitParameter? r).map fun (n, v) => (c :: n, v)

/-- Whether a character is a double quote. -/
def isQuote (c : Char) : Bool :=
  c == '"'

/-- The value of the first `charset` parameter of a media type. -/
def charsetOf (contentType : List Char) : Option (List Char) :=
  let parameters := (splitOnChar ';' contentType).drop 1
  let named := parameters.filterMap splitParameter?
  (named.find? fun p => sameFold (trimChars p.1) "charset".toList).map fun p =>
    lowerChars (stripBoth isQuote (trimChars p.2))

/-- The charset that a response declares. -/
def Response.charset (r : Response) : Option String :=
  r.contentType.bind fun c => (charsetOf c.toList).map String.ofList

/-- The names of UTF-8. -/
def utf8Names : List String := ["utf-8", "utf8", "us-ascii"]

/-- The names of Latin-1. -/
def latin1Names : List String := ["iso-8859-1", "latin1", "latin-1"]

/-- Why a body does not read as its kind. -/
inductive BodyFault where
  | utf8 (fault : Utf8.Fault)
  | charset (name : String)
  /-- The text is not JSON. -/
  | json
  deriving Repr, DecidableEq

/-- The text of a fault; `<json>` stands for the place and nature of a break of JSON's grammar. -/
def BodyFault.message : BodyFault → String
  | .utf8 fault => "response is not valid UTF-8: " ++ fault.message
  | .charset name => "unsupported charset " ++ name
  | .json => "<json>"

/-- The body of a response as text. -/
def Response.text (r : Response) : Except BodyFault String :=
  match r.charset with
  | none => (Utf8.decode r.body).mapError .utf8
  | some name =>
    if utf8Names.contains name then (Utf8.decode r.body).mapError .utf8
    else if latin1Names.contains name then .ok (Latin1.decode r.body)
    else .error (.charset name)

end TopicRelay.Content
