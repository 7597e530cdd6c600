import KeywordDocs.Action
import KeywordDocs.Host.Exit
import KeywordDocs.Host.Script
import KeywordDocs.Host.Variables

/-!
# Running programs

A machine has environment variables, a home directory of its user and programs. A command names its
program by a path, or by a bare name that is looked for in the directories of the variable `PATH`. A
file can be run when its mode allows it and it is a native program, or a script that leads to one.
What a native program does is given by the machine; a script is an argument for it.
-/

namespace KeywordDocs

/-- What a called program sees: its arguments, and the value of `PYTHONPATH`. -/
structure Invocation where
  arguments : List Bytes
  pythonPath : Option Bytes
  deriving DecidableEq, Repr

/-- A machine: its variables, the home directory of its user, if there is one, and what its programs
do when they are called. -/
structure Machine (σ : Type) where
  vars : Variables
  home : Option Path
  execute : Invocation → Action σ Output

/-- A program to be run. Without a `PYTHONPATH` of its own it inherits the one of the machine. -/
structure Command where
  executable : Path
  arguments : List Bytes
  pythonPath : Option Bytes
  deriving DecidableEq, Repr

namespace FileSystem

/-- Does the mode allow execution? -/
def isExecutableMode (mode : Nat) : Bool := mode &&& 0o111 ≠ 0

/-- Does the path lead to a file that may be executed? -/
def isProgram (fs : FileSystem) (p : Path) : Bool :=
  match fs.find p with
  | .ok (.file _ mode _) => isExecutableMode mode
  | _ => false

/-- The bytes that a native program starts with. -/
def nativeMark : Bytes := [127, 69, 76, 70]

/-- The numbers, at the seventeenth byte, that tell an executable from other native files. -/
def executableKinds : List Bytes := [[2, 0], [3, 0]]

/-- Are these the bytes of a native program? -/
def isNative (content : Bytes) : Bool :=
  nativeMark.isPrefixOf content && ((content.drop 16).take 2) ∈ executableKinds

/-- The bytes of the file at a path, if it may be executed. The empty path is that of the working
directory. -/
def programBytes (fs : FileSystem) (p : Path) : Except OsError Bytes :=
  if p.bytes = [] then .error .permissionDenied
  else
    match fs.find p with
    | .error e => .error e
    | .ok (.file content mode _) =>
      if isExecutableMode mode then .ok content else .error .permissionDenied
    | .ok _ => .error .permissionDenied

/-- Starts the file at a path, looking at no more than `files` files: it and the programs of scripts.
The result are the arguments that the native program gets before those of the command. -/
def launch (fs : FileSystem) : Nat → Path → Except OsError (List Bytes)
  | 0, p => (fs.programBytes p).bind fun _ => .error .tooManyLinks
  | files + 1, p => do
    let content ← fs.programBytes p
    if isNative content then .ok []
    else
      match ScriptLine.ofContent? content with
      | none => .error .notExecutable
      | some line => do
        let before ← launch fs files line.program
        .ok (before ++ line.argument.toList ++ [p.bytes])

/-- The number of files that are looked at to start a program. -/
def maxFiles : Nat := 6

/-- Looks for a bare name in directories. One in which it is missing or may not be executed is
passed over. If none is left, `denied` tells that it was found and refused, and `last` is what was
wrong with the directory before. -/
def searchProgram (fs : FileSystem) (name : Bytes) (denied : Bool) (last : OsError) :
    List Bytes → Except OsError (List Bytes)
  | [] => .error (if denied then .permissionDenied else last)
  | dir :: rest =>
    match fs.launch maxFiles ⟨if dir = [] then name else dir ++ 47 :: name⟩ with
    | .ok before => .ok before
    | .error .permissionDenied => searchProgram fs name true .permissionDenied rest
    | .error .notFound => searchProgram fs name denied .notFound rest
    | .error .notDirectory => searchProgram fs name denied .notDirectory rest
    | .error e => .error e

/-- Where programs are looked for if `PATH` is not set. -/
def defaultSearch : Bytes := Utf8.encode "/bin:/usr/bin"

/-- Starts the program that a command names. -/
def startProgram (fs : FileSystem) (v : Variables) (exe : Path) : Except OsError (List Bytes) :=
  if exe.bytes = [] then .error .notFound
  else if (47 : UInt8) ∈ exe.bytes then fs.launch maxFiles exe
  else
    let dirs := splitPathList ((v.get? "PATH").getD defaultSearch)
    fs.searchProgram exe.bytes false .notFound dirs

end FileSystem

/-- The longest argument and the longest setting of a variable, in bytes. -/
def Command.maxWord : Nat := 131071

/-- The setting of `PYTHONPATH` as a called program gets it. -/
def pythonPathSetting (value : Bytes) : Bytes := Utf8.encode "PYTHONPATH=" ++ value

namespace Machine

variable {σ : Type}

/-- Runs a command to its end. -/
def run (m : Machine σ) (c : Command) : Action σ (Except OsError Output) := do
  let texts := c.executable.bytes :: c.arguments ++ c.pythonPath.toList
  if texts.any ((0 : UInt8) ∈ ·) then return .error .zeroInCommand
  else
    match (← Action.files).startProgram m.vars c.executable with
    | .error e => return .error e
    | .ok before =>
      let arguments := before ++ c.arguments
      let pythonPath := c.pythonPath <|> m.vars.get? "PYTHONPATH"
      let settings := pythonPath.toList.map pythonPathSetting
      if (arguments ++ settings).any (Command.maxWord < ·.length) then
        return .error .argumentTooLong
      else return .ok (← m.execute ⟨arguments, pythonPath⟩)

end Machine

end KeywordDocs
