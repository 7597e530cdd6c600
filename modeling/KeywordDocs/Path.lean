import KeywordDocs.Text.Split
import KeywordDocs.Text.Utf8

/-!
# Paths

A path is read by its separators and its dots only, so the rules are stated for any alphabet that
has these two marks: characters for the text of a library reference, bytes for a path handed to
the file system, which need not be text.

Empty parts and `.` parts do not count, except a `.` at the very front of a path. A path that
starts with the separator is absolute.
-/

namespace KeywordDocs

/-- An alphabet that paths can be written in. -/
class PathAlphabet (α : Type) where
  /-- The mark between the parts of a path. -/
  slash : α
  /-- The mark of the current directory, of hidden names and of extensions. -/
  dot : α

instance : PathAlphabet Char := { slash := '/', dot := '.' }

instance : PathAlphabet UInt8 := { slash := 47, dot := 46 }

namespace PathText

variable {α : Type} [DecidableEq α] [PathAlphabet α]

open PathAlphabet

/-- The path starts at the root directory. -/
def isAbsolute (p : List α) : Bool := p.head? = some slash

/-- `rel` seen from `dir`: an absolute `rel` stands for itself. -/
def join (dir rel : List α) : List α :=
  if isAbsolute rel then rel
  else if dir = [] ∨ dir.getLast? = some slash then dir ++ rel
  else dir ++ slash :: rel

/-- Does a part of the path count, `front` telling whether it is the first one? -/
def counts (front : Bool) (part : List α) : Bool := part ≠ [] && (front || part ≠ [dot])

/-- Drops the parts at the back that do not count; the parts stand in reverse order. -/
def dropIdle : List (List α) → List (List α)
  | [] => []
  | part :: rest => if counts rest.isEmpty part then part :: rest else dropIdle rest

/-- The parts of a path that count up to the last one, in reverse order and with the idle parts
between them. -/
def reversedParts (p : List α) : List (List α) := dropIdle (Text.split slash p).reverse

/-- The path without its last part; the root and the empty path have none. -/
def parent? (p : List α) : Option (List α) :=
  match reversedParts p with
  | [] => none
  | _ :: rest =>
    match dropIdle rest with
    | [] => some (if isAbsolute p then [slash] else [])
    | parts => some (Text.join slash parts.reverse)

/-- The last part, if it is a name and not `.` or `..`. -/
def fileName? (p : List α) : Option (List α) :=
  match reversedParts p with
  | [] => none
  | part :: _ => if part = [dot] ∨ part = [dot, dot] then none else some part

/-- A file name cut at its last dot. A name without a dot, or with its only dot in front, is all
stem. -/
def stemAndExtension (name : List α) : List α × Option (List α) :=
  match (Text.split dot name).reverse with
  | [] | [_] => (name, none)
  | extension :: rest =>
    let stem := Text.join dot rest.reverse
    if stem = [] then (name, none) else (stem, some extension)

/-- The file name without its extension. -/
def fileStem? (p : List α) : Option (List α) := (fileName? p).map fun n => (stemAndExtension n).1

/-- The extension of the file name. -/
def extension? (p : List α) : Option (List α) :=
  (fileName? p).bind fun n => (stemAndExtension n).2

/-- A path and its parents, the longest first. -/
def ancestorsUpTo : Nat → List α → List (List α)
  | 0, p => [p]
  | fuel + 1, p =>
    match parent? p with
    | none => [p]
    | some q => p :: ancestorsUpTo fuel q

/-- A path and its parents, the longest first. A path has no more parents than marks. -/
def ancestors (p : List α) : List (List α) := ancestorsUpTo (p.length + 1) p

end PathText

/-- A path of the file system: bytes that need not be text. -/
structure Path where
  bytes : Bytes
  deriving DecidableEq, Repr

namespace Path

/-- The path a text names. -/
def ofString (s : String) : Path := ⟨Utf8.encode s⟩

/-- The path as text, U+FFFD standing for bytes that are not text. -/
def display (p : Path) : String := Utf8.decodeLossy p.bytes

/-- The path as text, if it is text. -/
def text? (p : Path) : Option String := Utf8.decode? p.bytes

@[inherit_doc PathText.isAbsolute]
def isAbsolute (p : Path) : Bool := PathText.isAbsolute p.bytes

@[inherit_doc PathText.join]
def join (dir rel : Path) : Path := ⟨PathText.join dir.bytes rel.bytes⟩

@[inherit_doc PathText.parent?]
def parent? (p : Path) : Option Path := (PathText.parent? p.bytes).map Path.mk

@[inherit_doc PathText.ancestors]
def ancestors (p : Path) : List Path := (PathText.ancestors p.bytes).map Path.mk

@[inherit_doc PathText.extension?]
def extension? (p : Path) : Option Bytes := PathText.extension? p.bytes

end Path

end KeywordDocs
