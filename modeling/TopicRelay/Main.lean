/-
The program: it reads the files that the configuration names, lets the adapter run along the real
clock, and writes the log to standard output, one JSON object a line.
-/
import TopicRelay.CommandLine.Run

namespace TopicRelay.CommandLine

open TopicRelay.Json TopicRelay.Log TopicRelay.Simulation

/-- Reads one file, as far as it can be read. -/
def readFile (files : Files) (path : String) : IO Files := do
  try
    let contents ← IO.FS.readBinFile path
    return files.write path contents.toList
  catch _ => return files.remove path

/-- Reads the configuration file, and then every file that it names. -/
def readFiles (args : Arguments) (files : Files) : IO Files := do
  let files ← readFile files args.config
  (filesNamed args files).foldlM readFile files

/-- Writes the log so far, apart from details, and forgets it. -/
def report (w : World) : IO World := do
  let out ← IO.getStdout
  for s in logOf w do
    if s.entry.level != .debug then out.putStrLn s.value.render
  out.flush
  return forget w

/-- Runs along the clock until the adapter is deactivated. -/
partial def follow (args : Arguments) (begun nextLook : Nat) (w : World) : IO World := do
  let elapsed := (← IO.monoMsNow) - begun
  let w := w.advance (elapsed - w.now)
  let due := nextLook ≤ elapsed
  let w ← if due then do
      let files ← readFiles args w.files
      pure (reload args (withFiles files w)).settle
    else pure w
  let w ← report w
  if isDeactivated w then return w
  IO.sleep 20
  follow args begun (if due then nextLook + lookInterval args else nextLook) w

/-- Runs the program with the arguments of the command line: its exit status. -/
def runProgram (argv : List String) : IO UInt32 := do
  match Arguments.parse argv with
  | .error e =>
    let out ← if e.exitStatus = 0 then IO.getStdout else IO.getStderr
    out.putStrLn e.message
    return e.exitStatus.toUInt32
  | .ok args =>
    let w ← follow args (← IO.monoMsNow) 0 (begin args {})
    let _ ← report (finish "deactivated" w)
    return 0

end TopicRelay.CommandLine

/-- Runs the program. -/
def main (argv : List String) : IO UInt32 :=
  TopicRelay.CommandLine.runProgram argv
