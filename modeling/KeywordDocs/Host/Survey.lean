import KeywordDocs.Host.Environment
import KeywordDocs.Host.Interpreter

/-!
# Asking the interpreter for its environment
-/

namespace KeywordDocs

/-- The script that prints what the interpreter tells of itself. -/
def environmentScript : String :=
  "import json, sys; print(json.dumps(\x7b'version': sys.version, " ++
  "'executable': sys.executable, 'platform': sys.platform, 'path': sys.path\x7d))"

/-- Reads what the interpreter tells of itself. All members must be there. -/
def InterpreterFacts.ofTerm? (t : Json.Term) : Option InterpreterFacts := do
  match ← t.members? ["version", "executable", "platform", "path"] with
  | [some version, some executable, some platform, some path] =>
    some ⟨← version.string?, ← executable.string?, ← platform.string?, ← path.strings?⟩
  | _ => none

namespace Interpreter

variable {σ : Type}

/-- Describes the host. An interpreter that does not know its executable is described by the one
it was called by. -/
def survey (i : Interpreter) (m : Machine σ) : ExceptT Failure (Action σ) HostEnvironment := do
  let output ← (i.runScript m environmentScript []).adapt fun e => e.within .queryEnvironment
  if ¬ output.status.isSuccess then
    throw (Failure.root (.environmentExit output.status (Text.trim output.stderrText)))
  else
    match Json.readLastLine? InterpreterFacts.ofTerm? output.stdoutText with
    | none => throw (Failure.root (.parseEnvironment (Text.trim output.stdoutText)))
    | some facts =>
      let executable := if facts.executable = "" then i.executable.display else facts.executable
      return .ofFacts m.vars { facts with executable := executable }

end Interpreter

end KeywordDocs
