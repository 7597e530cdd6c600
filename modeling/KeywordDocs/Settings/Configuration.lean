import KeywordDocs.Failure
import KeywordDocs.Toml.Reader

/-!
# The configuration file

A configuration names the interpreter and module search paths, in a table `runtime`. Keys that are
not known are passed over. The table may also be written as the array of its values in order.
-/

namespace KeywordDocs

/-- What a configuration file sets. -/
structure Configuration where
  python : String
  searchPaths : List String
  deriving DecidableEq, Repr

namespace Configuration

/-- The interpreter where none is named. -/
def defaultPython : String := "python3"

/-- The configuration of an empty file. -/
def default : Configuration := ⟨defaultPython, []⟩

open Toml (Value Members)

/-- The text a value is. -/
def text? : Value → Option String
  | .string s => some s
  | _ => none

/-- The texts a value lists. -/
def texts? : Value → Option (List String)
  | .array _ items => items.mapM text?
  | _ => none

/-- The least integer of 128 bits. -/
def leastInteger : Int := -(Nat.pow 2 127 : Nat)

/-- The greatest integer of 128 bits without a sign. -/
def greatestInteger : Int := (Nat.pow 2 128 - 1 : Nat)

mutual

/-- Can the value be passed over? A number must be within the range of numbers of its kind: 128
bits for an integer, a double for a floating-point number. -/
def isPassable : Value → Bool
  | .integer n => leastInteger ≤ n && n ≤ greatestInteger
  | .real inRange => inRange
  | .array _ items => areItemsPassable items
  | .table _ members => areMembersPassable members
  | _ => true

/-- Can all items of an array be passed over? -/
def areItemsPassable : List Value → Bool
  | [] => true
  | v :: vs => isPassable v && areItemsPassable vs

/-- Can the values of all members of a table be passed over? -/
def areMembersPassable : List (String × Value) → Bool
  | [] => true
  | m :: ms => isMemberPassable m && areMembersPassable ms

/-- Can the value of a member be passed over? -/
def isMemberPassable : String × Value → Bool
  | (_, v) => isPassable v

end

/-- Reads an optional value, with one for the case that it is missing. -/
def orElse {α : Type} (read : Value → Option α) (missing : α) : Option Value → Option α
  | none => some missing
  | some v => read v

/-- The members that are not known can be passed over. -/
def ignoresRest (known : List String) (members : Members) : Bool :=
  members.all fun (key, v) => known.contains key || isPassable v

/-- The configuration in the value of `runtime`. A date-time sets nothing. -/
def ofRuntime? : Value → Option Configuration
  | .table _ members =>
    if ignoresRest ["python", "search_paths"] members then do
      let python ← orElse text? defaultPython (members.lookup "python")
      let searchPaths ← orElse texts? [] (members.lookup "search_paths")
      some ⟨python, searchPaths⟩
    else none
  | .array _ items => do
    let python ← orElse text? defaultPython items[0]?
    let searchPaths ← orElse texts? [] items[1]?
    some ⟨python, searchPaths⟩
  | .moment => some default
  | _ => none

/-- The configuration in a document. -/
def ofMembers? (members : Members) : Option Configuration :=
  if ignoresRest ["runtime"] members then orElse ofRuntime? default (members.lookup "runtime")
  else none

/-- The configuration that a text is. -/
def ofText? (text : String) : Option Configuration := (Toml.read? text).bind ofMembers?

/-- Reads a configuration file. -/
def ofFile (fs : FileSystem) (path : Path) : Except Failure Configuration :=
  match fs.readText path with
  | .error e => .error ⟨.readConfig path, [.os e]⟩
  | .ok text =>
    match ofText? text with
    | some c => .ok c
    | none => .error ⟨.parseConfig path, [.invalidToml]⟩

end Configuration

end KeywordDocs
