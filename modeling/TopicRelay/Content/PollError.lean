/-
Why a request has no usable answer.
-/

namespace TopicRelay.Content

/-- Why a request has no usable answer. -/
inductive PollError where
  /-- The request could not be sent or its answer not received. -/
  | transport (text : String)
  | timeout (text : String)
  /-- The status of the answer is not one of success. -/
  | status (code : Nat)
  /-- The body could not be received. -/
  | body (text : String)
  /-- The body is not what the endpoint declares. -/
  | parse (text : String)
  | cancelled
  /-- There is no client to send requests with. -/
  | clientUnavailable (text : String)
  deriving Repr, DecidableEq, Inhabited

/-- The text of an error. -/
def PollError.message : PollError → String
  | .transport text => "request failed: " ++ text
  | .timeout text => "request timed out: " ++ text
  | .status code => "unexpected status code " ++ toString code
  | .body text => "unable to read response body: " ++ text
  | .parse text => "unable to parse response: " ++ text
  | .cancelled => "request cancelled"
  | .clientUnavailable text => "HTTP client is not available: " ++ text

end TopicRelay.Content
