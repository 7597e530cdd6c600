import KeywordDocs.Host.Variables
import KeywordDocs.Path
import KeywordDocs.Text.Terminal

/-!
# The arguments of the command line

Three arguments are required: the libraries, the module search paths and the cache directory.
Options may stand anywhere before a `--`. An option that takes a value takes it after an equals
sign, in the next word, or, for a short option, in the same word. Two options can also be set by
environment variables.

A value that was read counts only when the next thing begins, so that a word that is not known is
reported before anything that is wrong with the value before it.
-/

namespace KeywordDocs

/-- What the command line asks for. -/
structure Arguments where
  libraries : String
  searchPaths : String
  cacheDir : Path
  python : Option String
  config : Option String
  pretty : Bool
  deriving DecidableEq, Repr

/-- What is wrong with a command line. -/
inductive UsageError where
  | missingArgument
  | unknownArgument
  /-- A value is missing, or is empty where it may not be. -/
  | invalidValue
  /-- An option is given twice. -/
  | repeatedOption
  /-- A flag is given a value. -/
  | unexpectedValue
  /-- A value is not text. -/
  | notText
  deriving DecidableEq, Repr

/-- Why a command line is not carried out. -/
inductive Stop where
  | help
  | version
  | usage (error : UsageError)
  deriving DecidableEq, Repr

namespace Arguments

/-- The things that have a value. -/
inductive Slot where
  | libraries
  | searchPaths
  | cacheDir
  | python
  | config
  deriving DecidableEq, Repr

/-- The required arguments in order. -/
def positions : List Slot := [.libraries, .searchPaths, .cacheDir]

/-- The variable that sets an option. -/
def pythonVariable : String := "LIBDOC_CACHE_PYTHON"

@[inherit_doc pythonVariable]
def configVariable : String := "LIBDOC_CACHE_CONFIG"

/-- The values given so far. -/
structure Given where
  libraries : Option String
  searchPaths : Option String
  cacheDir : Option Path
  python : Option String
  config : Option String
  pretty : Bool
  deriving DecidableEq, Repr

namespace Given

/-- Nothing was given yet. -/
def nothing : Given := ⟨none, none, none, none, none, false⟩

/-- Was the thing given already? -/
def has (g : Given) : Slot → Bool
  | .libraries => g.libraries.isSome
  | .searchPaths => g.searchPaths.isSome
  | .cacheDir => g.cacheDir.isSome
  | .python => g.python.isSome
  | .config => g.config.isSome

/-- A value that must be text. -/
def text (value : Bytes) : Except UsageError String :=
  match Utf8.decode? value with
  | some s => .ok s
  | none => .error .notText

/-- Gives a thing its value. -/
def put (g : Given) (slot : Slot) (value : Bytes) : Except UsageError Given :=
  match slot with
  | .libraries => (text value).map fun s => { g with libraries := some s }
  | .searchPaths => (text value).map fun s => { g with searchPaths := some s }
  | .cacheDir => if value = [] then .error .invalidValue else .ok { g with cacheDir := some ⟨value⟩ }
  | .python => (text value).map fun s => { g with python := some s }
  | .config => (text value).map fun s => { g with config := some s }

/-- Sets an option from a variable, unless it was given. -/
def fromVariable (v : Variables) (slot : Slot) (name : String) (g : Given) :
    Except UsageError Given :=
  match v.get? name with
  | some value => if g.has slot then .ok g else g.put slot value
  | none => .ok g

/-- The arguments, if all that are required were given. -/
def finish (g : Given) : Except UsageError Arguments :=
  match g.libraries, g.searchPaths, g.cacheDir with
  | some libraries, some searchPaths, some cacheDir =>
    .ok ⟨libraries, searchPaths, cacheDir, g.python, g.config, g.pretty⟩
  | _, _, _ => .error .missingArgument

end Given

/-- A command line being read: what was given, the value that does not count yet, how many required
arguments have begun, whether a `--` was seen, and the option whose value is the next word. -/
structure Draft where
  given : Given
  pending : Option (Slot × Option Bytes)
  position : Nat
  trailing : Bool
  awaiting : Option Slot
  deriving DecidableEq, Repr

namespace Draft

/-- The command line before its first word. -/
def start : Draft := ⟨.nothing, none, 0, false, none⟩

/-- Makes the pending value count. -/
def settle (d : Draft) : Except UsageError Draft :=
  match d.pending with
  | none => .ok d
  | some (_, none) => .error .invalidValue
  | some (slot, some value) =>
    if d.given.has slot then .error .repeatedOption
    else (d.given.put slot value).map fun g => { d with given := g, pending := none }

/-- Begins an option with a value, in the same word or in the next one. -/
def beginOption (d : Draft) (slot : Slot) (value : Option Bytes) : Except UsageError Draft := do
  let d ← d.settle
  match value with
  | some v => settle { d with pending := some (slot, some v), awaiting := none }
  | none => .ok { d with pending := some (slot, none), awaiting := some slot }

/-- Sets the flag for pretty reports. -/
def setPretty (d : Draft) : Except UsageError Draft := do
  let d ← d.settle
  if d.given.pretty then .error .repeatedOption
  else .ok { d with given := { d.given with pretty := true }, awaiting := none }

/-- Stops for help or for the version. -/
def stop {α : Type} (d : Draft) (s : Stop) : Except Stop α :=
  match d.settle with
  | .error e => .error (.usage e)
  | .ok _ => .error s

/-- A result in which something may be wrong with the usage. -/
def usage {α : Type} : Except UsageError α → Except Stop α
  | .ok a => .ok a
  | .error e => .error (.usage e)

/-- Takes a long option: its name, and its value after an equals sign. -/
def takeLong (d : Draft) (name : Bytes) (value : Option Bytes) : Except Stop Draft :=
  match Utf8.decode? name with
  | some "python" => usage (d.beginOption .python value)
  | some "config" => usage (d.beginOption .config value)
  | some "pretty" => if value.isSome then .error (.usage .unexpectedValue) else usage d.setPretty
  | some "help" => if value.isSome then .error (.usage .unexpectedValue) else d.stop .help
  | some "version" => if value.isSome then .error (.usage .unexpectedValue) else d.stop .version
  | _ => .error (.usage .unknownArgument)

/-- Takes a word of short options. -/
def takeShort (d : Draft) : Bytes → Except Stop Draft
  | [] => .ok d
  | c :: rest =>
    if c = 104 then d.stop .help
    else if c = 86 then d.stop .version
    else if c = 99 then
      usage (d.beginOption .config
        (match rest with
          | [] => none
          | 61 :: value => some value
          | value => some value))
    else .error (.usage .unknownArgument)

/-- Takes a required argument. -/
def takePosition (d : Draft) (word : Bytes) : Except Stop Draft :=
  match positions[d.position]? with
  | none => .error (.usage .unknownArgument)
  | some slot => do
    let d ← usage d.settle
    .ok { d with pending := some (slot, some word), position := d.position + 1, awaiting := none }

/-- Takes a word that is no option: the value of the option before it, or a required argument. -/
def takeValue (d : Draft) (word : Bytes) : Except Stop Draft :=
  match d.awaiting with
  | some slot => .ok { d with pending := some (slot, some word), awaiting := none }
  | none => d.takePosition word

/-- Takes a word. -/
def takeWord (d : Draft) (word : Bytes) : Except Stop Draft :=
  if d.trailing then d.takePosition word
  else
    match word with
    | [45, 45] => .ok { d with trailing := true }
    | 45 :: 45 :: rest =>
      let name := rest.takeWhile (· ≠ 61)
      d.takeLong name (if name.length < rest.length then some (rest.drop (name.length + 1)) else none)
    | [45] => d.takeValue word
    | 45 :: rest => d.takeShort rest
    | _ => d.takeValue word

/-- The arguments that a command line gives, with the variables that set options. -/
def finish (v : Variables) (d : Draft) : Except UsageError Arguments := do
  let d ← d.settle
  let g ← d.given.fromVariable v .python pythonVariable
  let g ← g.fromVariable v .config configVariable
  g.finish

end Draft

/-- Reads the words of a command line after the name of the program. -/
def parse (v : Variables) (words : List Bytes) : Except Stop Arguments := do
  let d ← words.foldlM Draft.takeWord .start
  Draft.usage (d.finish v)

/-- The text of the version. -/
def versionText : String := "libdoc-cache 0.1.0\n"

/-- How the command is called. -/
def usageLine : String :=
  "Usage: libdoc-cache [OPTIONS] <LIBRARIES> <SEARCH_PATHS> <CACHE_DIR>"

/-- The column at which options are described. -/
def helpColumn : Nat := 25

/-- What the help tells of a variable: its name and its value. -/
def variableHelp (v : Variables) (name : String) : String :=
  let value := (v.get? name).map Utf8.decodeLossy |>.getD ""
  let value := value.toList.flatMap fun c =>
    if c = '\n' then '\n' :: List.replicate helpColumn ' ' else [c]
  "[env: " ++ name ++ "=" ++ String.ofList value ++ "]"

/-- The name of an option as a terminal shows it: in bold letters. -/
def optionName (name : String) : String := "\x1b[1m" ++ name ++ "\x1b[0m"

/-- The lines of the help that describe the options, for a terminal. -/
def optionHelp (v : Variables) : String :=
  "      " ++ optionName "--python" ++ " <PYTHON>  Python interpreter (name in PATH or path) " ++
  variableHelp v pythonVariable ++ "\n" ++
  "  " ++ optionName "-c" ++ ", " ++ optionName "--config" ++ " <CONFIG>  Config file path " ++
  variableHelp v configVariable ++ "\n" ++
  "      " ++ optionName "--pretty" ++ "           Pretty-print the JSON report\n" ++
  "  " ++ optionName "-h" ++ ", " ++ optionName "--help" ++ "             Print help\n" ++
  "  " ++ optionName "-V" ++ ", " ++ optionName "--version" ++ "          Print version\n"

/-- The text of the help. It is never shown in colours, so control sequences are left out, also
those in the values of variables. -/
def helpText (v : Variables) : String :=
  Text.Terminal.plain <|
    "Libdoc cache for Robot Framework libraries\n\n" ++
    usageLine ++ "\n\n" ++
    "Arguments:\n" ++
    "  <LIBRARIES>     Library names or paths to .py files, comma-separated " ++
    "(blank entries are skipped)\n" ++
    "  <SEARCH_PATHS>  Additional module search paths, comma-separated (may be empty)\n" ++
    "  <CACHE_DIR>     Directory holding the cached libdoc files\n\n" ++
    "Options:\n" ++ optionHelp v

end Arguments

end KeywordDocs
