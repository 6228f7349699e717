/-
The arguments of the command line: the configuration file, which is required, and two numbers of
seconds. An option is written `--name value`, `--name=value`, `-c value`, `-cvalue` or `-c=value`,
at most once; what starts with a dash is never the value of the option before it, a lone dash apart.
-/
import TopicRelay.Decimal.Power
import TopicRelay.Text.Digits

namespace TopicRelay.CommandLine

open TopicRelay.Decimal TopicRelay.Text

/-- What the command line asks for. -/
structure Arguments where
  config : String
  reloadIntervalSecs : Nat
  requestTimeoutSecs : Nat
  deriving Repr, DecidableEq, Inhabited

/-- Why the command line is not followed. -/
inductive ArgumentError where
  /-- Help was asked for. -/
  | displayHelp
  /-- An option has no value. -/
  | invalidValue
  /-- The value of an option does not read as what it should be. -/
  | valueValidation
  | unknownArgument
  /-- An option is given twice. -/
  | argumentConflict
  | missingRequiredArgument
  /-- A value is given where none is taken. -/
  | tooManyValues
  deriving Repr, DecidableEq, Inhabited

/-- The text of an error; help is told how the program is used. -/
def ArgumentError.message : ArgumentError → String
  | .displayHelp =>
    "usage: topic-relay --config FILE [--reload-interval-secs SECONDS] "
      ++ "[--request-timeout-secs SECONDS]"
  | .invalidValue => "an option has no value"
  | .valueValidation => "a value is no number of seconds"
  | .unknownArgument => "unknown argument"
  | .argumentConflict => "an option is given twice"
  | .missingRequiredArgument => "no configuration file is given"
  | .tooManyValues => "an option has a value that takes none"

/-- The exit status of the program when its arguments are not followed. -/
def ArgumentError.exitStatus : ArgumentError → Nat
  | .displayHelp => 0
  | _ => 2

/-- The options with a value. -/
inductive Flag where
  | config
  | reloadInterval
  | requestTimeout
  deriving Repr, DecidableEq, Inhabited

/-- The option of a long name. -/
def Flag.ofLong? (name : List Char) : Option Flag :=
  if name = "config".toList then some .config
  else if name = "reload-interval-secs".toList then some .reloadInterval
  else if name = "request-timeout-secs".toList then some .requestTimeout
  else none

/-- The seconds between looks at the configuration file, unless they are given. -/
def defaultReloadIntervalSecs : Nat := 10

/-- The seconds that a request may take, unless they are given. -/
def defaultRequestTimeoutSecs : Nat := 30

/-- A number of seconds: decimal digits below 2^64, with a plus sign in front or not. -/
def seconds? (text : List Char) : Option Nat :=
  let digits := match text with
    | '+' :: r => r
    | cs => cs
  if digits.isEmpty || !digits.all Char.isDigit then none
  else
    let n := digitsValue 0 digits
    if n < twoTo 64 then some n else none

/-- What has been read of the arguments. -/
structure Reading where
  config : Option String := none
  reloadInterval : Option Nat := none
  requestTimeout : Option Nat := none
  /-- The option read last, with its value if it has come, before it is taken. -/
  pending : Option (Flag × Option (List Char)) := none
  /-- Whether only values without a name may follow. -/
  trailing : Bool := false
  deriving Repr, DecidableEq

namespace Reading

/-- Whether an option has been taken. -/
def has (r : Reading) : Flag → Bool
  | .config => r.config.isSome
  | .reloadInterval => r.reloadInterval.isSome
  | .requestTimeout => r.requestTimeout.isSome

/-- Takes an option with its value. -/
def take (flag : Flag) (value : Option (List Char)) (r : Reading) :
    Except ArgumentError Reading :=
  match value with
  | none => .error .invalidValue
  | some v =>
    if r.has flag then .error .argumentConflict
    else
      match flag, seconds? v with
      | .config, _ => .ok { r with config := some (String.ofList v) }
      | _, none => .error .valueValidation
      | .reloadInterval, some n => .ok { r with reloadInterval := some n }
      | .requestTimeout, some n => .ok { r with requestTimeout := some n }

/-- Takes the option that was read last. -/
def resolve (r : Reading) : Except ArgumentError Reading :=
  match r.pending with
  | none => .ok r
  | some (flag, value) => { r with pending := none }.take flag value

/-- Reads an option, with the value attached to it if there is one. -/
def option (flag : Flag) (attached : Option (List Char)) (r : Reading) :
    Except ArgumentError Reading := do
  let r ← r.resolve
  match attached with
  | some v => r.take flag (some v)
  | none => .ok { r with pending := some (flag, none) }

/-- Reads a request for help. -/
def help (r : Reading) : Except ArgumentError Reading := do
  let _ ← r.resolve
  .error .displayHelp

/-- Cuts a text at its first equals sign. -/
def cutEquals : List Char → List Char × Option (List Char)
  | [] => ([], none)
  | c :: r =>
    if c == '=' then ([], some r)
    else
      let (name, value) := cutEquals r
      (c :: name, value)

/-- Reads what stands after two dashes. -/
def long (text : List Char) (r : Reading) : Except ArgumentError Reading :=
  let (name, attached) := cutEquals text
  match Flag.ofLong? name with
  | some flag => r.option flag attached
  | none =>
    if name = "help".toList then
      match attached with
      | none => r.help
      | some _ => .error .tooManyValues
    else .error .unknownArgument

/-- Reads what stands after one dash. -/
def short (text : List Char) (r : Reading) : Except ArgumentError Reading :=
  match text with
  | ['c'] => r.option .config none
  | 'c' :: '=' :: v => r.option .config (some v)
  | 'c' :: v => r.option .config (some v)
  | 'h' :: _ => r.help
  | _ => .error .unknownArgument

/-- Reads a value without a name, which only an option that waits for one can have. -/
def value (text : List Char) (r : Reading) : Except ArgumentError Reading :=
  match r.pending, r.trailing with
  | some (flag, none), false => .ok { r with pending := some (flag, some text) }
  | _, _ => .error .unknownArgument

/-- Reads one argument. -/
def argument (text : List Char) (r : Reading) : Except ArgumentError Reading :=
  if r.trailing then r.value text
  else
    match text with
    | ['-', '-'] => .ok { r with trailing := true }
    | '-' :: '-' :: name => r.long name
    | ['-'] => r.value text
    | '-' :: name => r.short name
    | _ => r.value text

end Reading

/-- Reads the arguments. -/
def Arguments.parse (argv : List String) : Except ArgumentError Arguments := do
  let r ← argv.foldlM (fun r a => Reading.argument a.toList r) ({} : Reading)
  let r ← r.resolve
  match r.config with
  | none => .error .missingRequiredArgument
  | some config =>
    .ok {
      config
      reloadIntervalSecs := r.reloadInterval.getD defaultReloadIntervalSecs
      requestTimeoutSecs := r.requestTimeout.getD defaultRequestTimeoutSecs }

end TopicRelay.CommandLine
