/-
Which kind an endpoint produces, by its configuration and its first response: `auto` takes the most
specific kind for the media type, any other setting names a kind that must be able to handle it.
-/
import TopicRelay.Config.Model
import TopicRelay.Content.Kind
import TopicRelay.Content.Response

namespace TopicRelay.Content

open TopicRelay.Config

/-- The kind of an endpoint, given a response. -/
def resolve (e : EndpointConfig) (r : Response) : Except ContentTypeError PayloadKind :=
  if e.infersKind then .ok (PayloadKind.infer r.contentType)
  else
    match PayloadKind.ofIdentifier e.produces with
    | .error err => .error err
    | .ok kind =>
      match r.contentType with
      | none => .ok kind
      | some c => if kind.accepts c then .ok kind else .error (.mismatch c kind)

end TopicRelay.Content
