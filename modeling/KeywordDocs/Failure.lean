import KeywordDocs.FileSystem.Basic
import KeywordDocs.Host.Exit
import KeywordDocs.Library.Reference

/-!
# Failures

A failure is a chain of faults: what could not be done, and under it the faults that caused it,
down to the root. A chain is shown on one line, or as a report with the causes on lines of their
own.
-/

namespace KeywordDocs

/-- Something that went wrong. -/
inductive Fault where
  /-- The operating system refused. -/
  | os (error : OsError)
  | createCacheDir (dir : Path)
  | readConfig (path : Path)
  | parseConfig (path : Path)
  /-- The configuration is not valid TOML, or has a value of a wrong kind. -/
  | invalidToml
  | searchPath
  /-- A search path holds the mark that separates search paths. -/
  | separatorInPath
  | runInterpreter (executable : Path)
  | robotMissing
  | queryEnvironment
  | environmentExit (status : ExitStatus) (detail : String)
  | parseEnvironment (printed : String)
  | runLibdoc (reference : Reference)
  | libdocExit (status : ExitStatus) (reference : Reference) (detail : String)
  | libdocMissing (path : Path)
  /-- A path of the report is not text. -/
  | pathNotText
  /-- A fault of a generator outside this library. -/
  | other (text : String)
  deriving DecidableEq, Repr

/-- The text of a fault, as users see it. -/
def Fault.message : Fault → String
  | .os e => e.message
  | .createCacheDir dir => "Failed to create cache directory: " ++ dir.display
  | .readConfig path => "Failed to read config file: " ++ path.display
  | .parseConfig path => "Failed to parse config file: " ++ path.display
  | .invalidToml => "TOML parse error"
  | .searchPath => "Invalid module search path"
  | .separatorInPath => "path segment contains separator `:`"
  | .runInterpreter exe => "Failed to run Python interpreter: " ++ exe.display
  | .robotMissing => "Robot framework is not installed."
  | .queryEnvironment => "Failed to query Python environment"
  | .environmentExit status detail =>
    "Python environment query exited with " ++ status.message ++ ": " ++ detail
  | .parseEnvironment printed => "Failed to parse Python environment: " ++ printed
  | .runLibdoc r => "Failed to run libdoc for: " ++ r.raw
  | .libdocExit status r detail =>
    "libdoc exited with " ++ status.message ++ " for " ++ r.raw ++ ": " ++ detail
  | .libdocMissing path => "libdoc reported success but wrote no file: " ++ path.display
  | .pathNotText => "path contains invalid UTF-8 characters"
  | .other text => text

/-- A fault and the faults that caused it, the root last. -/
structure Failure where
  fault : Fault
  causes : List Fault
  deriving DecidableEq, Repr

namespace Failure

/-- The failure that has no cause but itself. -/
def root (f : Fault) : Failure := ⟨f, []⟩

/-- A failure in a wider view. -/
def within (e : Failure) (f : Fault) : Failure := ⟨f, e.fault :: e.causes⟩

/-- The faults of a failure, the root last. -/
def chain (e : Failure) : List Fault := e.fault :: e.causes

/-- A failure on one line. -/
def inline (e : Failure) : String := String.intercalate ": " (e.chain.map Fault.message)

/-- A text with every line but the first one indented. -/
def indentRest (width : Nat) (text : String) : List Char :=
  text.toList.flatMap fun c => if c = '\n' then '\n' :: List.replicate width ' ' else [c]

/-- The causes on lines of their own: a single one indented by four, several ones numbered in five
columns with their further lines indented by seven. -/
def causeLines (causes : List String) : List (List Char) :=
  match causes with
  | [cause] => [List.replicate 4 ' ' ++ indentRest 4 cause]
  | causes =>
    causes.mapIdx fun i cause =>
      let number := Nat.toDigits 10 i
      List.replicate (5 - number.length) ' ' ++ number ++ [':', ' '] ++ indentRest 7 cause

/-- A failure with its causes on lines of their own. -/
def report (e : Failure) : String :=
  if e.causes = [] then e.fault.message
  else
    e.fault.message ++ "\n\nCaused by:" ++
      String.ofList ((causeLines (e.causes.map Fault.message)).flatMap ('\n' :: ·))

end Failure

end KeywordDocs
