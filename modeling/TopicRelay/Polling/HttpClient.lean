/-
Clients that send requests to endpoints. A client refuses a URL whose host is no host before it
connects to anything; connections themselves are outside of this library, so every request that
passes the check ends without an answer.
-/
import TopicRelay.Content.PollError
import TopicRelay.Content.Response
import TopicRelay.Trust.Context

namespace TopicRelay.Polling

open TopicRelay.Config TopicRelay.Content

/-- Why a URL names no host. -/
inductive HostFault where
  | empty
  /-- A bracket is opened and not closed. -/
  | unclosedBracket
  | forbidden (c : Char)
  deriving Repr, DecidableEq, Inhabited

/-- The text of a fault. -/
def HostFault.message : HostFault → String
  | .empty => "empty host"
  | .unclosedBracket => "invalid IPv6 address"
  | .forbidden _ => "invalid domain character"

/-- Whether a host name can not hold a character. -/
def isForbiddenInHost (c : Char) : Bool :=
  c.toNat ≤ 0x20 || c.toNat == 0x7f
    || ['"', '#', '%', '/', ':', '<', '>', '?', '@', '[', '\\', ']', '^', '\x60', '|'].contains c

/-- Refuses what is no host: nothing, an address with an open bracket, or a name with a character
that names can not hold. -/
def checkHost (host : List Char) : Except HostFault Unit :=
  match host with
  | [] => .error .empty
  | '[' :: address => if address.contains ']' then .ok () else .error .unclosedBracket
  | name =>
    match name.find? isForbiddenInHost with
    | some c => .error (.forbidden c)
    | none => .ok ()

/-- A client, with the certificates that it trusts besides the usual ones. -/
structure HttpClient where
  trust : Option Trust.Context := none
  timeoutMs : Option Nat := none
  deriving Repr, DecidableEq, Inhabited

namespace HttpClient

/-- How many certificates a client trusts besides the usual ones, if any were given. -/
def certificates (c : HttpClient) : Option Nat :=
  c.trust.map (·.certificates.length)

/-- Why no request is answered that passes the check of its URL. -/
def noConnection : PollError :=
  .transport "no connection can be opened"

/-- Sends a request to an endpoint. -/
def request (_c : HttpClient) (s : ServiceConfig) (_e : EndpointConfig) :
    Except PollError Response :=
  match checkHost s.host.toList with
  | .error fault => .error (.transport fault.message)
  | .ok _ => .error noConnection

end HttpClient

end TopicRelay.Polling
