/-
Loading models: from a JSON text, from a JSON value, and from a configuration file in JSON5.
-/
import TopicRelay.Config.Formats
import TopicRelay.Config.Schema

namespace TopicRelay.Config

/-- Reads a record from a JSON text. -/
def readJson {α : Type} (read : Json.Node → Except Refusal α) (text : String) :
    Except Refusal α :=
  let (node, ended) := Json.readText text.toList
  match read node with
  | .ok a => if ended then .ok a else .error .grammar
  | .error r => .error r

/-- Reads a model from a JSON text. -/
def Model.ofJson (text : String) : Except Refusal Model :=
  readJson jsonText.model text

/-- Reads a model from a JSON value. -/
def Model.ofValue (v : Json.Value) : Except Refusal Model :=
  jsonValue.model (.ofValue v)

/-- Reads a model from a JSON5 text. -/
def Model.ofJson5 (text : String) : Except Refusal Model :=
  match Json5.read? text.toList with
  | none => .error .grammar
  | some t => json5Text.model t

/-- Why a configuration file gives no model. -/
inductive LoadError where
  | read (path reason : String)
  | parse (path : String) (refusal : Refusal)
  deriving Repr, DecidableEq

/-- The text of an error. -/
def LoadError.message : LoadError → String
  | .read path reason => "unable to read config file " ++ path ++ ": " ++ reason
  | .parse path refusal => "unable to parse config file " ++ path ++ ": " ++ refusal.message

/-- Reads the text of a configuration file. -/
def parseModel (path contents : String) : Except LoadError Model :=
  (Model.ofJson5 contents).mapError (.parse path)

end TopicRelay.Config
