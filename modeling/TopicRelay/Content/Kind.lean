/-
Payload kinds of endpoints: the identifiers that configurations use for them, the media types each
can handle, and the kind that a media type suggests. A more specific kind comes first: what JSON
handles, plain text handles too, and binary handles everything.
-/
import TopicRelay.Content.TopicValue
import TopicRelay.Text.Blank
import TopicRelay.Text.Fold

namespace TopicRelay.Content

open TopicRelay.Text

/-- What the body of a response holds. -/
inductive PayloadKind where
  | json
  | plainText
  | binary
  deriving Repr, DecidableEq, Inhabited

/-- Why the payload kind of an endpoint is not settled. -/
inductive ContentTypeError where
  /-- No kind has this identifier. -/
  | unsupportedProduces (produces : String)
  /-- The endpoint declares a kind that cannot handle the media type. -/
  | mismatch (contentType : String) (kind : PayloadKind)
  deriving Repr, DecidableEq, Inhabited

namespace PayloadKind

/-- The names that a configuration may use for the kind, the canonical one first. -/
def identifiers : PayloadKind → List String
  | .json => ["json", "application/json", "text/json"]
  | .plainText => ["string", "text/plain"]
  | .binary => ["binary", "application/octet-stream"]

/-- The canonical name. -/
def identifier : PayloadKind → String
  | .json => "json"
  | .plainText => "string"
  | .binary => "binary"

/-- The kind with the given name, blanks at its ends aside. -/
def ofIdentifier (name : String) : Except ContentTypeError PayloadKind :=
  let name := trim name
  match [json, plainText, binary].find? fun k => k.identifiers.contains name with
  | some k => .ok k
  | none => .error (.unsupportedProduces name)

/-- The kind of topic for values of the kind. -/
def topicKind : PayloadKind → TopicKind
  | .json => .json
  | .plainText | .binary => .binary

/-- How the media types start that the kind handles. -/
def mediaTypes : PayloadKind → List String
  | .json => ["application/json", "text/json"]
  | .plainText => ["text/plain", "application/json", "text/json"]
  | .binary => [""]

/-- Whether the kind handles a media type, up to case and blanks at the ends. -/
def accepts (k : PayloadKind) (contentType : String) : Bool :=
  let given := lowerChars (trimChars contentType.toList)
  k.mediaTypes.any fun m => m.toList.isPrefixOf given

/-- The most specific kind that handles a media type, binary for none. -/
def infer (contentType : Option String) : PayloadKind :=
  match contentType with
  | none => .binary
  | some c =>
    if json.accepts c then .json
    else if plainText.accepts c then .plainText
    else .binary

end PayloadKind

/-- The text of an error. -/
def ContentTypeError.message : ContentTypeError → String
  | .unsupportedProduces produces => "unsupported endpoint type \"" ++ produces ++ "\""
  | .mismatch contentType kind =>
    "the content type " ++ contentType
      ++ " of the response is not suitable for an endpoint producing " ++ kind.identifier

end TopicRelay.Content
