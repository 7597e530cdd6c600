import KeywordDocs.CommandLine.Program
import Std.Time

/-!
# The command

The command reads what a run depends on, its variables, the home directory and the files that may
configure it, runs the program on it, and passes on what the program prints. It starts no programs
itself: its machine has none, so that a run which needs the interpreter ends with the failure to
start it.
-/

namespace KeywordDocs.Main

/-- The variables that have a meaning for a run. -/
def variableNames : List String :=
  ["HOME", "PATH", "PYTHONPATH", "JYTHONPATH", "CLASSPATH", "IRONPYTHONPATH", "CI", "RUST_LOG",
    "NO_COLOR", "LIBDOC_CACHE_LOG_FORMAT", Arguments.pythonVariable, Arguments.configVariable]

/-- The variables that are set. -/
def readVariables : IO Variables := do
  let mut vars : Variables := ⟨[]⟩
  for name in variableNames do
    if let some value ← IO.getEnv name then
      vars := vars.set name (Utf8.encode value)
  return vars

/-- The home directory of a user by the list of users, which has a line for each: its third field is the
number of the user, its sixth the home directory. -/
def listedHome? (users number : String) : Option Path :=
  (users.splitOn "\n").findSome? fun line =>
    match line.splitOn ":" with
    | [_, _, n, _, _, home, _] => if n = number ∧ home ≠ "" then some (.ofString home) else none
    | _ => none

/-- The number of the user by the description of the running process. -/
def listedUser? (process : String) : Option String :=
  (process.splitOn "\n").findSome? fun line =>
    match line.splitOn "\t" with
    | "Uid:" :: number :: _ => some number
    | _ => none

/-- The home directory: the value of `HOME`, or else what the list of users has. -/
def readHome (vars : Variables) : IO (Option Path) := do
  match vars.get? "HOME" with
  | some (byte :: bytes) => return some ⟨byte :: bytes⟩
  | _ =>
    try
      let user := listedUser? (← IO.FS.readFile "/proc/self/status")
      let users ← IO.FS.readFile "/etc/passwd"
      return user.bind (listedHome? users)
    catch _ => return none

/-- Adds the file at a path, if there is one that can be read. -/
def readInto (fs : FileSystem) (path : Path) : IO FileSystem := do
  try
    let content ← IO.FS.readBinFile path.display
    return (fs.writeWithParents .epoch path content.toList .epoch).2
  catch _ => return fs

/-- The files that may configure a run. -/
def readFiles (vars : Variables) (home : Option Path) (words : List Bytes) : IO FileSystem := do
  let here := Path.ofString (← IO.currentDir).toString
  let empty : FileSystem := ⟨[], [], .epoch, true⟩
  let named := match Arguments.parse vars words with
    | .ok arguments => arguments.config.toList.map Path.ofString
    | .error _ => []
  let entered := (empty.makeDirectories .epoch here).2.enter here
  (named ++ configCandidates home here).foldlM readInto entered

/-- The time now, as log lines show it. -/
def stamp : IO String := do
  let now := Std.Time.DateTime.ofTimestamp (← Std.Time.Timestamp.now) .UTC
  return now.format "uuuu-MM-dd'T'HH:mm:ss.SSSSSS'Z'"

/-- Runs the program and passes on what it prints. -/
def run (args : List String) : IO UInt32 := do
  let words := args.map Utf8.encode
  let vars ← readVariables
  let home ← readHome vars
  let machine : Machine Unit := ⟨vars, home, fun _ => pure ⟨.code 127, [], []⟩⟩
  let outcome := Program.run machine words ⟨← readFiles vars home words, .epoch, ()⟩
  let clock : ClockText := ⟨← stamp, "0"⟩
  let ending := outcome.value
  IO.print ending.stdout
  if ending.code = 2 then IO.eprintln Arguments.usageLine
  IO.eprint (Program.errorStream vars clock outcome.log ending.failure)
  return UInt32.ofNat ending.code

end KeywordDocs.Main

/-- The entry point of the command. -/
def main (args : List String) : IO UInt32 := KeywordDocs.Main.run args
