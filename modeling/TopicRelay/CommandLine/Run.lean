/-
The program on the command line: it looks at its configuration file again and again, hands each model
over, and ends when a model deactivates the adapter.
-/
import TopicRelay.CommandLine.Arguments
import TopicRelay.Config.Load
import TopicRelay.Simulation.Run

namespace TopicRelay.CommandLine

open TopicRelay.Config TopicRelay.Control TopicRelay.Log TopicRelay.Simulation

/-- An entry of the program. -/
def entry (level : Level) (event : String) (fields : List (String × Field)) : Entry :=
  { level, event, component := "configurable_rest_adapter", fields }

/-- Reads a configuration file. -/
def loadModel (files : Files) (path : String) : Except LoadError Model :=
  match files.readText path with
  | .error e => .error (.read path e.message)
  | .ok text => parseModel path text

/-- The program as it begins. -/
def begin (args : Arguments) (files : Files) : World :=
  let w : World :=
    { files, logOnly := true
      lifecycle := some { shutdownAwaited := true, observed := true } }
  w.say (entry .info "adapter_start"
    [("config", .text args.config), ("reload_interval_secs", .count args.reloadIntervalSecs)])

/-- Looks at the configuration file. -/
def reload (args : Arguments) (w : World) : World :=
  match loadModel w.files args.config with
  | .error e =>
    w.say (entry .warn "config_load_failed" [("err", .text e.message)])
  | .ok m =>
    (w.say (entry .info "config_load_ok"
      [("services", .count m.services.length), ("active", .flag m.active)])).offer m

/-- Whether the adapter has been deactivated. -/
def isDeactivated (w : World) : Bool :=
  w.shutdowns != 0

/-- Ends the program for a reason. -/
def finish (reason : String) (w : World) : World :=
  let w := w.say (entry .info "adapter_exit" [("reason", .text reason)])
  let w := (w.drive .close).1
  w.say w.metrics.summary

/-- The log of a world, the earliest entry first. -/
def logOf (w : World) : List Stamped :=
  w.history.reverse.filterMap fun (t, h) =>
    match h with
    | .logged e => some { time := t, entry := e }
    | _ => none

/-- Puts what is known of files in place of what was known. -/
def withFiles (files : Files) (w : World) : World :=
  { w with files }

/-- Forgets what has been seen of the run. -/
def forget (w : World) : World :=
  { w with history := [] }

/-- How many milliseconds lie between two looks at the configuration file, at least a second. -/
def lookInterval (args : Arguments) : Nat :=
  max args.reloadIntervalSecs 1 * 1000

/-- The files that the configuration names, the configuration file first. -/
def filesNamed (args : Arguments) (files : Files) : List String :=
  args.config ::
    match loadModel files args.config with
    | .ok m => m.truststore.toList
    | .error _ => []

/-- The log of a run that ends with its first model, if it does. -/
def runOnce (args : Arguments) (files : Files) : Option (List Stamped) :=
  let w := (reload args (begin args files)).settle
  if isDeactivated w then some (logOf (finish "deactivated" w)) else none

end TopicRelay.CommandLine
