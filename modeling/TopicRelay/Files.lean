/-
A directory of files, as paths relative to it see them. A path is followed name by name, where `.`
stays and `..` goes up; a directory is there as long as a file below it is. Of what lies outside the
directory only the files are known that an absolute path names.
-/
import TopicRelay.Text.Utf8

namespace TopicRelay

open TopicRelay.Text

/-- Why a file cannot be read. -/
inductive FileError where
  | notFound
  | isDirectory
  | notDirectory
  | nameTooLong
  | nulByte
  | notUtf8
  deriving Repr, DecidableEq, Inhabited

/-- The text of an error. -/
def FileError.message : FileError → String
  | .notFound => "No such file or directory (os error 2)"
  | .isDirectory => "Is a directory (os error 21)"
  | .notDirectory => "Not a directory (os error 20)"
  | .nameTooLong => "File name too long (os error 36)"
  | .nulByte => "file name contained an unexpected NUL byte"
  | .notUtf8 => "stream did not contain valid UTF-8"

/-- Files by the names that lead to them from the directory, and others by their absolute paths. -/
structure Files where
  entries : List (List String × Octets) := []
  outside : List (String × Octets) := []
  deriving Repr, Inhabited

namespace Files

/-- The longest name of a file, in octets. -/
def maxName : Nat := 255

/-- Paths of this many octets are too long. -/
def maxPath : Nat := 4096

/-- The names of a path, empty ones included. -/
def names (path : String) : List String :=
  path.splitOn "/"

/-- What stands at the end of a list of names. -/
inductive Spot where
  | file (contents : Octets)
  | directory
  | missing
  deriving Repr, DecidableEq

/-- What the directory holds under a list of names. -/
def spot (fs : Files) (at_ : List String) : Spot :=
  match fs.entries.lookup at_ with
  | some contents => .file contents
  | none =>
    if at_.isEmpty || fs.entries.any (fun e => at_.isPrefixOf e.1) then .directory else .missing

/-- Whether a name stays where it stands. -/
def isStay (n : String) : Bool :=
  n == "" || n == "."

/-- Follows names from outside the directory, where there are directories but no files. -/
def followOutside (ns : List String) : FileError :=
  match ns.find? fun n => !(isStay n || n == "..") with
  | none => .isDirectory
  | some n => if maxName < n.utf8ByteSize then .nameTooLong else .notFound

/-- Follows names from a place in the directory to a file. -/
def follow (fs : Files) (at_ : List String) : List String → Except FileError Octets
  | [] =>
    match fs.spot at_ with
    | .file contents => .ok contents
    | .directory => .error .isDirectory
    | .missing => .error .notFound
  | n :: ns =>
    match fs.spot at_ with
    | .file _ => .error .notDirectory
    | .missing => .error .notFound
    | .directory =>
      if isStay n then fs.follow at_ ns
      else if n == ".." then
        if at_.isEmpty then .error (followOutside ns) else fs.follow at_.dropLast ns
      else if maxName < n.utf8ByteSize then .error .nameTooLong
      else fs.follow (at_ ++ [n]) ns

/-- Whether a path begins outside the directory. -/
def isAbsolute (path : String) : Bool :=
  path.startsWith "/"

/-- The contents of a file. -/
def read (fs : Files) (path : String) : Except FileError Octets :=
  if path.toList.contains '\x00' then .error .nulByte
  else if path.isEmpty then .error .notFound
  else if maxPath ≤ path.utf8ByteSize then .error .nameTooLong
  else if isAbsolute path then
    match fs.outside.lookup path with
    | some contents => .ok contents
    | none => .error (followOutside (names path))
  else fs.follow [] (names path)

/-- The contents of a file of text. -/
def readText (fs : Files) (path : String) : Except FileError String :=
  match fs.read path with
  | .error e => .error e
  | .ok contents =>
    match Utf8.decode contents with
    | .ok s => .ok s
    | .error _ => .error .notUtf8

/-- The names that a path is stored under. -/
def place (path : String) : List String :=
  (names path).filter fun n => !isStay n

/-- Removes the file at a path. -/
def remove (fs : Files) (path : String) : Files :=
  if isAbsolute path then { fs with outside := fs.outside.filter fun e => e.1 != path }
  else { fs with entries := fs.entries.filter fun e => e.1 != place path }

/-- Puts a file at a path, in place of one that is there. -/
def write (fs : Files) (path : String) (contents : Octets) : Files :=
  let cleared := fs.remove path
  if isAbsolute path then { cleared with outside := (path, contents) :: cleared.outside }
  else { cleared with entries := (place path, contents) :: cleared.entries }

end Files

end TopicRelay
