import KeywordDocs.Path

/-!
# The file system

A file system is a finite map from locations to files, directories and symbolic links, together
with a working directory and the rights of the user. A location is a list of names from the root; a
path is looked up step by step, through links, to the location it leads to.

Looking up fails as it does on a Unix system: with a missing entry, with a file in the place of a
directory, with a name that is too long, with links that lead in circles, or with a zero byte,
which no path can hold.
-/

namespace KeywordDocs

/-- A reason for the operating system to refuse a request. -/
inductive OsError where
  | notFound
  | permissionDenied
  | alreadyExists
  | notDirectory
  | isDirectory
  | nameTooLong
  | tooManyLinks
  | notExecutable
  | argumentTooLong
  /-- A zero byte in the path of a file operation. -/
  | zeroInPath
  /-- A zero byte in a command, its arguments or its variables. -/
  | zeroInCommand
  /-- A file that was to be read as text is not UTF-8. -/
  | notText
  deriving DecidableEq, Repr

/-- The text of an error, as users see it. -/
def OsError.message : OsError → String
  | .notFound => "No such file or directory (os error 2)"
  | .permissionDenied => "Permission denied (os error 13)"
  | .alreadyExists => "File exists (os error 17)"
  | .notDirectory => "Not a directory (os error 20)"
  | .isDirectory => "Is a directory (os error 21)"
  | .nameTooLong => "File name too long (os error 36)"
  | .tooManyLinks => "Too many levels of symbolic links (os error 40)"
  | .notExecutable => "Exec format error (os error 8)"
  | .argumentTooLong => "Argument list too long (os error 7)"
  | .zeroInPath => "file name contained an unexpected NUL byte"
  | .zeroInCommand => "nul byte found in provided data"
  | .notText => "stream did not contain valid UTF-8"

/-- A point in time: nanoseconds since the epoch, negative before it. -/
abbrev Time := Int

/-- The time that stands for an unknown one. -/
def Time.epoch : Time := 0

/-- The time of whole seconds and nanoseconds. -/
def Time.ofParts (seconds nanoseconds : Int) : Time := seconds * 1000000000 + nanoseconds

/-- The names from the root down to an entry. -/
abbrev Location := List Bytes

/-- What is found at a location. -/
inductive Entry where
  | file (content : Bytes) (mode : Nat) (modified : Time)
  | directory (modified : Time)
  | link (target : Path)
  deriving DecidableEq, Repr

/-- Files, directories and links by location, the working directory, the time at which the root was last
changed, and whether the user may read files of every mode. -/
structure FileSystem where
  entries : List (Location × Entry)
  workingDirectory : Location
  rootTime : Time
  readsAll : Bool
  deriving DecidableEq, Repr

/-- Where a path leads: to an entry, or to a free name in a directory. -/
inductive Spot where
  | taken (location : Location) (entry : Entry)
  | free (directory : Location) (name : Bytes)
  deriving DecidableEq, Repr

namespace FileSystem

/-- The entry at a location; the root is always a directory. -/
def entryAt? (fs : FileSystem) (l : Location) : Option Entry :=
  if l = [] then some (.directory fs.rootTime) else fs.entries.lookup l

/-- The longest name of an entry, in bytes. -/
def maxName : Nat := 255

/-- The longest path, in bytes. -/
def maxPath : Nat := 4095

/-- The number of links a look-up may follow. -/
def maxLinks : Nat := 40

/-- The parts of a path between its separators. -/
def parts (p : Path) : List Bytes := Text.split 47 p.bytes

/-- Takes the steps of a path from a location, and goes on through `viaLink` where a link has to be
followed. With `follow` the last step may lead through a link, and separators behind it ask for a
directory; without, the last step is taken as it is. -/
def steps (fs : FileSystem) (follow : Bool)
    (viaLink : Location → List Bytes → Except OsError Spot) :
    Location → List Bytes → Except OsError Spot
  | here, [] =>
    match fs.entryAt? here with
    | some e => .ok (.taken here e)
    | none => .error .notFound
  | here, part :: rest =>
    match fs.entryAt? here with
    | none => .error .notFound
    | some (.file ..) | some (.link _) => .error .notDirectory
    | some (.directory _) =>
      if maxName < part.length then .error .nameTooLong
      else if part = [] ∨ part = [46] then steps fs follow viaLink here rest
      else if part = [46, 46] then steps fs follow viaLink here.dropLast rest
      else
        let there := here ++ [part]
        let isLast := rest.all (· = [])
        match fs.entryAt? there with
        | none => if isLast then .ok (.free here part) else .error .notFound
        | some (.link target) =>
          if isLast ∧ ¬ follow then .ok (.taken there (.link target))
          else if target.bytes = [] then .error .notFound
          else viaLink (if target.isAbsolute then [] else here) (parts target ++ rest)
        | some (.file c m t) =>
          if rest = [] ∨ (isLast ∧ ¬ follow) then .ok (.taken there (.file c m t))
          else .error .notDirectory
        | some (.directory _) => steps fs follow viaLink there rest

/-- Takes the steps of a path from a location, following at most `links` links. -/
def walk (fs : FileSystem) (follow : Bool) :
    Nat → Location → List Bytes → Except OsError Spot
  | 0 => fs.steps follow fun _ _ => .error .tooManyLinks
  | links + 1 => fs.steps follow (walk fs follow links)

/-- Where a path leads. -/
def locate (fs : FileSystem) (follow : Bool) (p : Path) : Except OsError Spot :=
  if (0 : UInt8) ∈ p.bytes then .error .zeroInPath
  else if p.bytes = [] then .error .notFound
  else if maxPath < p.bytes.length then .error .nameTooLong
  else fs.walk follow maxLinks (if p.isAbsolute then [] else fs.workingDirectory) (parts p)

/-- The entry a path leads to, through links. -/
def find (fs : FileSystem) (p : Path) : Except OsError Entry :=
  match fs.locate true p with
  | .ok (.taken _ e) => .ok e
  | .ok (.free ..) => .error .notFound
  | .error e => .error e

/-- Does the path lead to anything? -/
def pathExists (fs : FileSystem) (p : Path) : Bool :=
  match fs.find p with
  | .ok _ => true
  | .error _ => false

/-- Does the path lead to a file? -/
def isFile (fs : FileSystem) (p : Path) : Bool :=
  match fs.find p with
  | .ok (.file ..) => true
  | _ => false

/-- Does the path lead to a directory? -/
def isDirectory (fs : FileSystem) (p : Path) : Bool :=
  match fs.find p with
  | .ok (.directory _) => true
  | _ => false

/-- The time at which what the path leads to was last changed. -/
def modified? (fs : FileSystem) (p : Path) : Option Time :=
  match fs.find p with
  | .ok (.file _ _ t) => some t
  | .ok (.directory t) => some t
  | _ => none

/-- Does the mode allow reading? -/
def isReadableMode (mode : Nat) : Bool := mode &&& 0o444 ≠ 0

/-- The bytes of the file a path leads to, if the user may read it. -/
def read (fs : FileSystem) (p : Path) : Except OsError Bytes :=
  match fs.find p with
  | .ok (.file content mode _) =>
    if fs.readsAll || isReadableMode mode then .ok content else .error .permissionDenied
  | .ok _ => .error .isDirectory
  | .error e => .error e

/-- The text of the file a path leads to. -/
def readText (fs : FileSystem) (p : Path) : Except OsError String :=
  match fs.read p with
  | .ok bytes =>
    match Utf8.decode? bytes with
    | some text => .ok text
    | none => .error .notText
  | .error e => .error e

/-- The path of a location. -/
def pathTo (l : Location) : Path := ⟨47 :: Text.join 47 l⟩

/-- The path of the working directory. -/
def currentPath (fs : FileSystem) : Path := pathTo fs.workingDirectory

end FileSystem

end KeywordDocs
