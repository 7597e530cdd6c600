import KeywordDocs.Host.Variables
import KeywordDocs.Json.Basic

/-!
# The host environment

Every report carries a description of the interpreter it was made with, and the variables that
direct where modules are found.
-/

namespace KeywordDocs

/-- A description of the host. -/
structure HostEnvironment where
  pythonVersion : String
  pythonExecutable : String
  platform : String
  moduleSearchPath : List String
  pythonPath : String
  jythonPath : String
  classPath : String
  ironpythonPath : String
  deriving DecidableEq, Repr

/-- What an interpreter tells of itself. -/
structure InterpreterFacts where
  version : String
  executable : String
  platform : String
  path : List String
  deriving DecidableEq, Repr

namespace HostEnvironment

/-- What is reported of a variable that is not set to text. -/
def notAvailable : String := "n/a"

/-- The reported value of a variable. -/
def reported (v : Variables) (name : String) : String := (v.text? name).getD notAvailable

/-- Describes the host by what the interpreter tells of itself and by the variables. -/
def ofFacts (v : Variables) (facts : InterpreterFacts) : HostEnvironment where
  pythonVersion := facts.version
  pythonExecutable := facts.executable
  platform := facts.platform
  moduleSearchPath := facts.path
  pythonPath := reported v "PYTHONPATH"
  jythonPath := reported v "JYTHONPATH"
  classPath := reported v "CLASSPATH"
  ironpythonPath := reported v "IRONPYTHONPATH"

/-- The description as JSON. -/
def toJson (e : HostEnvironment) : Json :=
  .object [("pythonVersion", .string e.pythonVersion),
    ("pythonExecutable", .string e.pythonExecutable), ("platform", .string e.platform),
    ("moduleSearchPath", Json.ofStrings e.moduleSearchPath), ("pythonPath", .string e.pythonPath),
    ("jythonPath", .string e.jythonPath), ("classPath", .string e.classPath),
    ("ironpythonPath", .string e.ironpythonPath)]

end HostEnvironment

end KeywordDocs
