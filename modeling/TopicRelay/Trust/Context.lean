/-
Trust material: the certificates of the truststore that a model names, shared by the broker session
and the requests of endpoints.
-/
import TopicRelay.Config.Model
import TopicRelay.Files
import TopicRelay.Trust.Pem

namespace TopicRelay.Trust

open TopicRelay.Config TopicRelay.Text

/-- Why a truststore gives no certificates. -/
inductive TrustError where
  | unreadable (path reason : String)
  | noCertificates (path : String)
  | invalidCertificate (path reason : String)
  deriving Repr, DecidableEq, Inhabited

/-- The text of an error. -/
def TrustError.message : TrustError → String
  | .unreadable path reason => "unable to read truststore " ++ path ++ ": " ++ reason
  | .noCertificates path => "truststore " ++ path ++ " contains no PEM certificates"
  | .invalidCertificate path reason =>
    "invalid certificate in truststore " ++ path ++ ": " ++ reason

/-- The certificates of a truststore, at least one. -/
structure Context where
  truststore : String
  certificates : List Octets
  deriving Repr, DecidableEq, Inhabited

namespace Context

/-- Takes the certificates of a bundle. -/
def ofPem (truststore : String) (bundle : Octets) : Except TrustError Context :=
  match Pem.certificates bundle with
  | .error fault => .error (.invalidCertificate truststore fault.message)
  | .ok [] => .error (.noCertificates truststore)
  | .ok (c :: cs) => .ok ⟨truststore, c :: cs⟩

/-- Takes the certificates of a file. -/
def ofFile (files : Files) (path : String) : Except TrustError Context :=
  match files.read path with
  | .error reason => .error (.unreadable path reason.message)
  | .ok bundle => ofPem path bundle

/-- Takes the certificates of the truststore that a model names, none if it names none. -/
def ofModel (files : Files) (m : Model) : Except TrustError (Option Context) :=
  match m.truststore with
  | none => .ok none
  | some path => (ofFile files path).map some

/-- The context in diagnostics. -/
def describe (c : Context) : String :=
  "TlsContext \x7b truststore: " ++ Quoted.encode c.truststore ++ ", certificates: "
    ++ toString c.certificates.length ++ " \x7d"

end Context

end TopicRelay.Trust
