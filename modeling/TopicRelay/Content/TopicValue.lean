/-
Values of topics. A JSON topic takes JSON values; a binary topic takes text, as UTF-8, and raw
octets.
-/
import TopicRelay.Json.Writer
import TopicRelay.Text.Utf8

namespace TopicRelay.Content

open TopicRelay.Text

/-- The kind of a topic. -/
inductive TopicKind where
  | json
  | binary
  deriving Repr, DecidableEq, Inhabited

/-- The name of a kind of topic in messages. -/
def TopicKind.name : TopicKind → String
  | .json => "Json"
  | .binary => "Binary"

/-- A value to publish. -/
inductive TopicValue where
  | json (v : Json.Value)
  | text (s : String)
  | binary (bs : Octets)
  deriving Repr, BEq, Inhabited

namespace TopicValue

/-- The kind of topic that takes the value. -/
def topicKind : TopicValue → TopicKind
  | .json _ => .json
  | .text _ | .binary _ => .binary

/-- What subscribers receive. -/
def octets : TopicValue → Octets
  | .json v => Utf8.encodeChars v.write
  | .text s => Utf8.encode s
  | .binary bs => bs

end TopicValue

end TopicRelay.Content
