import KeywordDocs.Batch
import KeywordDocs.CommandLine.Arguments
import KeywordDocs.Host.Libdoc
import KeywordDocs.Host.Probe
import KeywordDocs.Host.Survey
import KeywordDocs.Log.Filter
import KeywordDocs.Log.Format
import KeywordDocs.Settings.Discovery

/-!
# The program

A run reads its configuration, finds the interpreter and makes sure that it has Robot Framework,
asks it for its environment, processes the libraries and prints the report. Everything else it has
to tell goes to the error stream: the log, and the failure that ended it.
-/

namespace KeywordDocs

/-- The module that must be there for anything to be done. -/
def robotModule : String := "robot"

/-- How a run of the program ended: its exit code, what it printed, and the failure it reports. -/
structure Ending where
  code : Nat
  stdout : String
  failure : Option Failure
  deriving DecidableEq, Repr

namespace Program

variable {σ : Type}

/-- Search paths in a log line. -/
def showPaths (paths : List Path) : String :=
  "[" ++ String.intercalate ", " (paths.map fun p => Text.quotedBytes p.bytes) ++ "]"

/-- The interpreter that the settings name. -/
def interpreter (m : Machine σ) (s : Settings) : Action σ Interpreter := do
  let i ← Interpreter.locate m s.python s.searchPaths
  Action.log ⟨.debug, .program, "using interpreter",
    [("python", .plain i.executable.display), ("search_paths", .plain (showPaths i.searchPaths))]⟩
  return i

/-- Makes sure that the interpreter has Robot Framework. -/
def requireRobot (m : Machine σ) (i : Interpreter) : ExceptT Failure (Action σ) Unit := do
  let found ← (i.hasModule m robotModule).adapt fun e => e.within .robotMissing
  if found then return () else throw (Failure.root .robotMissing)

/-- The processor that works with an interpreter. -/
def processor (m : Machine σ) (i : Interpreter) : Processor σ := ⟨i.loader m, i.generator m⟩

/-- Does what the arguments ask for and gives the report in writing. -/
def report (m : Machine σ) (a : Arguments) : ExceptT Failure (Action σ) String := do
  let file ← ExceptT.mk (loadConfiguration m.home (a.config.map Path.ofString))
  let settings := Settings.merge a.python (Text.entries a.searchPaths) file
  let i ← ExceptT.lift (interpreter m settings)
  requireRobot m i
  let environment ← i.survey m
  let references := Reference.parseList a.libraries
  let (result, _) ←
    ExceptT.lift ((processor m i).runBatch environment a.cacheDir .empty references)
  let report ← ExceptT.mk (pure result)
  ExceptT.mk (pure (report.render (if a.pretty then .pretty else .compact)))

/-- Runs the program on the words of its command line. -/
def run (m : Machine σ) (words : List Bytes) : Action σ Ending := do
  match Arguments.parse m.vars words with
  | .error .help => return ⟨0, Arguments.helpText m.vars, none⟩
  | .error .version => return ⟨0, Arguments.versionText, none⟩
  | .error (.usage _) => return ⟨2, "", none⟩
  | .ok a =>
    match ← (report m a).run with
    | .ok text => return ⟨0, text ++ "\n", none⟩
    | .error e => return ⟨1, "", some e⟩

/-- What a run writes to the error stream: the events that are logged, then the failure. -/
def errorStream (v : Variables) (clock : ClockText) (log : List Event) (failure : Option Failure) :
    String :=
  let filter := LogFilter.ofVariables v
  let format := LogFormat.ofVariables v
  String.join ((log.filter filter.accepts).map (Event.line format (fieldColours v) clock)) ++
    (failure.map fun e => "[libdoc-cache] " ++ e.inline ++ "\n").getD ""

end Program

end KeywordDocs
