/-
Reading a response body as a value of a payload kind.
-/
import TopicRelay.Content.Charset
import TopicRelay.Content.Kind
import TopicRelay.Content.PollError
import TopicRelay.Json.Reader

namespace TopicRelay.Content

namespace PayloadKind

/-- The value that a body holds. -/
def read (k : PayloadKind) (r : Response) : Except BodyFault TopicValue :=
  match k with
  | .json => do
    let text ← r.text
    match Json.parse? text with
    | some v => .ok (.json v)
    | none => .error .json
  | .plainText => r.text.map .text
  | .binary => .ok (.binary r.body)

/-- The value that a body holds, or why the poll has none. -/
def parse (k : PayloadKind) (r : Response) : Except PollError TopicValue :=
  (k.read r).mapError fun fault => .parse fault.message

end PayloadKind

end TopicRelay.Content
