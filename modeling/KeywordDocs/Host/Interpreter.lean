import KeywordDocs.Failure
import KeywordDocs.Host.Machine
import KeywordDocs.Json.Decode
import KeywordDocs.Text.Quoted

/-!
# The host interpreter

All questions to Python go through one interpreter: one executable, and one list of search paths
that is appended to the search path of the machine.
-/

namespace KeywordDocs

/-- A Python interpreter and the module search paths it is given. -/
structure Interpreter where
  executable : Path
  searchPaths : List Path
  deriving DecidableEq, Repr

/-- The parts of a path that are not empty or `.`. -/
def steadyParts (p : Path) : List Bytes :=
  (Text.split 47 p.bytes).filter fun part => part ≠ [] && part ≠ [46]

/-- The parts of a path that count as steps: the root, a leading `.`, and all other parts that are
not empty or `.`. -/
def stepCount (p : Path) : Nat :=
  let leading := if p.isAbsolute ∨ (Text.split 47 p.bytes).head? = some [46] then 1 else 0
  leading + (steadyParts p).length

/-- The parts of `rel` below a directory. -/
def below (dir rel : Path) : Path := dir.join ⟨Text.join 47 (steadyParts rel)⟩

/-- A relative path made absolute, without its `.` parts. -/
def FileSystem.absolute (fs : FileSystem) (p : Path) : Path :=
  if p.isAbsolute then p else below fs.currentPath p

/-- A search directory with a leading `~` replaced by the home directory. -/
def expandHome (v : Variables) (dir : Path) : Path :=
  match Text.split 47 dir.bytes, v.get? "HOME" with
  | [126] :: rest, some home =>
    if home = [] then dir
    else if steadyParts ⟨Text.join 47 rest⟩ = [] then ⟨home⟩
    else below ⟨home⟩ ⟨Text.join 47 rest⟩
  | _, _ => dir

/-- Finds an executable, as an absolute path: a path of more than one step is taken from the working
directory, a bare name is looked for in the directories of `PATH`. -/
def findExecutable? (fs : FileSystem) (v : Variables) (name : Path) : Option Path :=
  let candidates :=
    if 1 < stepCount name then [name]
    else
      (((v.get? "PATH").map splitPathList).getD []).map fun dir => (expandHome v ⟨dir⟩).join name
  (candidates.map fs.absolute).find? fs.isProgram

namespace Command

/-- What is shown of an argument that holds a zero byte. -/
def zeroText : Bytes := Utf8.encode "<string-with-nul>"

/-- A word of a command as it is shown. -/
def shownWord (word : Bytes) : Bytes := if (0 : UInt8) ∈ word then zeroText else word

/-- A command in a log line. -/
def inLog (c : Command) : String :=
  let setting := (c.pythonPath.map fun value => "PYTHONPATH=" ++ Text.quotedBytes value).toList
  let program := Text.quotedProgram (shownWord c.executable.bytes)
  let arguments := c.arguments.map fun word => Text.quotedBytes (shownWord word)
  String.intercalate " " (setting ++ program :: arguments)

end Command

namespace Interpreter

variable {σ : Type}

/-- The interpreter of a name. An executable that can not be found is run as it is named. -/
def locate (m : Machine σ) (name : String) (searchPaths : List Path) : Action σ Interpreter := do
  match findExecutable? (← Action.files) m.vars (.ofString name) with
  | some exe => return ⟨exe, searchPaths⟩
  | none =>
    Action.log ⟨.debug, .interpreter, "interpreter not found in PATH, trying as-is",
      [("executable", .quoted name), ("error", .plain "cannot find binary path")]⟩
    return ⟨.ofString name, searchPaths⟩

/-- The value of `PYTHONPATH` for a call: the inherited paths and then those of the interpreter.
An interpreter without search paths leaves the variable alone. -/
def pythonPath (i : Interpreter) (v : Variables) : Except Failure (Option Bytes) :=
  if i.searchPaths = [] then .ok none
  else
    let inherited := ((v.get? "PYTHONPATH").map splitPathList).getD []
    match joinPathList? (inherited ++ i.searchPaths.map (·.bytes)) with
    | some joined => .ok (some joined)
    | none => .error ⟨.searchPath, [.separatorInPath]⟩

/-- Runs the interpreter with arguments. -/
def call (i : Interpreter) (m : Machine σ) (arguments : List Bytes) :
    ExceptT Failure (Action σ) Output := do
  let command : Command := ⟨i.executable, arguments, ← liftExcept (i.pythonPath m.vars)⟩
  Action.note ⟨.trace, .interpreter, "running interpreter", [("command", .plain command.inLog)]⟩
  match ← ExceptT.lift (m.run command) with
  | .ok output => return output
  | .error e => throw ⟨.runInterpreter i.executable, [.os e]⟩
where
  /-- A result that is already there. -/
  liftExcept {α : Type} : Except Failure α → ExceptT Failure (Action σ) α
    | .ok a => pure a
    | .error e => throw e

/-- Runs a script given as text. -/
def runScript (i : Interpreter) (m : Machine σ) (script : String) (arguments : List Bytes) :
    ExceptT Failure (Action σ) Output :=
  i.call m (Utf8.encode "-c" :: Utf8.encode script :: arguments)

/-- Runs a module as a program. -/
def runModule (i : Interpreter) (m : Machine σ) (name : String) (arguments : List Bytes) :
    ExceptT Failure (Action σ) Output :=
  i.call m (Utf8.encode "-m" :: Utf8.encode name :: arguments)

/-- Can the interpreter import the module? -/
def hasModule (i : Interpreter) (m : Machine σ) (name : String) :
    ExceptT Failure (Action σ) Bool := do
  let output ← i.runScript m ("import " ++ name) []
  return output.status.isSuccess

end Interpreter

end KeywordDocs
