import KeywordDocs.FileSystem.Basic

/-!
# Changing the file system

A change takes place at some time, `now`. New entries change the time of their directory to it, and new
directories have it themselves. Making a directory with its parents leaves what is already there alone,
and so fails only where something that is no directory stands in the way.
-/

namespace KeywordDocs.FileSystem

/-- Puts an entry at a location, in place of the one that was there. -/
def put (fs : FileSystem) (l : Location) (e : Entry) : FileSystem :=
  { fs with entries := (l, e) :: fs.entries.filter (·.1 ≠ l) }

/-- Putting an entry touches no other location. -/
theorem entryAt?_put (fs : FileSystem) {l : Location} (hl : l ≠ []) (e : Entry) (k : Location) :
    (fs.put l e).entryAt? k = if k = l then some e else fs.entryAt? k := by
  have lookup_filter : ∀ entries : List (Location × Entry), k ≠ l →
      (entries.filter (·.1 ≠ l)).lookup k = entries.lookup k := by
    intro entries hk
    induction entries with
    | nil => rfl
    | cons entry rest ih =>
      obtain ⟨m, f⟩ := entry
      by_cases hm : m = l
      · have hkm : (k == m) = false := by simpa [hm] using hk
        rw [List.filter_cons_of_neg (by simp [hm]), List.lookup_cons, hkm, ih]
      · rw [List.filter_cons_of_pos (by simp [hm]), List.lookup_cons, List.lookup_cons, ih]
  by_cases h : k = l
  · subst h
    simp [entryAt?, put, hl]
  · have hkl : (k == l) = false := by simpa using h
    by_cases hk : k = []
    · rw [if_neg h, entryAt?, entryAt?, if_pos hk, if_pos hk, put]
    · simp only [entryAt?, put, hk, h, if_false, List.lookup_cons, hkl]
      exact lookup_filter fs.entries h

/-- Gives a directory another time. -/
def setTime (fs : FileSystem) (dir : Location) (time : Time) : FileSystem :=
  if dir = [] then { fs with rootTime := time } else fs.put dir (.directory time)

/-- Another time for a directory touches no other location. -/
theorem entryAt?_setTime (fs : FileSystem) (dir : Location) (time : Time) (k : Location) :
    (fs.setTime dir time).entryAt? k = if k = dir then some (.directory time) else fs.entryAt? k := by
  unfold setTime
  split
  · rename_i hroot
    subst hroot
    by_cases hk : k = [] <;> simp [entryAt?, hk]
  · rename_i hroot
    exact entryAt?_put fs hroot _ k

/-- Puts a new entry into a directory. -/
def add (fs : FileSystem) (now : Time) (dir : Location) (name : Bytes) (e : Entry) : FileSystem :=
  (fs.setTime dir now).put (dir ++ [name]) e

/-- Makes one directory. -/
def makeDirectory (fs : FileSystem) (now : Time) (p : Path) : Except OsError FileSystem :=
  match fs.locate false p with
  | .ok (.taken ..) => .error .alreadyExists
  | .ok (.free dir name) => .ok (fs.add now dir name (.directory now))
  | .error e => .error e

/-- Makes the directories of a list of paths one after another; one that is there already is left
alone. Directories made before a failure stay. -/
def makeEach (now : Time) : FileSystem → List Path → Except OsError Unit × FileSystem
  | fs, [] => (.ok (), fs)
  | fs, p :: ps =>
    match fs.makeDirectory now p with
    | .ok fs => makeEach now fs ps
    | .error .alreadyExists =>
      if fs.isDirectory p then makeEach now fs ps else (.error .alreadyExists, fs)
    | .error e => (.error e, fs)

/-- Makes the directories a path needs: from `pending`, the path and those of its parents that are
missing, upwards to the first one that is there or can be made, and down again. -/
def makeUpwards (fs : FileSystem) (now : Time) (pending : List Path) :
    List Path → Except OsError Unit × FileSystem
  | [] => makeEach now fs pending
  | p :: parents =>
    if p.bytes = [] ∨ p.parent? = none then makeEach now fs pending
    else
      match fs.makeDirectory now p with
      | .ok fs => makeEach now fs pending
      | .error .notFound => makeUpwards fs now (p :: pending) parents
      | .error .alreadyExists =>
        if fs.isDirectory p then makeEach now fs pending else (.error .alreadyExists, fs)
      | .error e => (.error e, fs)

/-- Makes a directory and its parents where they are missing. -/
def makeDirectories (fs : FileSystem) (now : Time) (p : Path) : Except OsError Unit × FileSystem :=
  fs.makeUpwards now [] p.ancestors

/-- The mode of a new file: readable by all, writable by its owner. -/
def plainMode : Nat := 0o644

/-- Writes a file and gives it a time. An existing file keeps its mode. -/
def write (fs : FileSystem) (now : Time) (p : Path) (content : Bytes) (time : Time) :
    Except OsError FileSystem :=
  match fs.locate true p with
  | .ok (.taken l (.file _ mode _)) => .ok (fs.put l (.file content mode time))
  | .ok (.taken ..) => .error .isDirectory
  | .ok (.free dir name) =>
    if p.bytes.getLast? = some 47 then .error .isDirectory
    else .ok (fs.add now dir name (.file content plainMode time))
  | .error e => .error e

/-- Writes a file, making its directory first. Directories made before a failure stay. -/
def writeWithParents (fs : FileSystem) (now : Time) (p : Path) (content : Bytes) (time : Time) :
    Except OsError Unit × FileSystem :=
  let (made, fs) := (p.parent?.map (fs.makeDirectories now)).getD (.ok (), fs)
  match made with
  | .error e => (.error e, fs)
  | .ok _ =>
    match fs.write now p content time with
    | .ok fs => (.ok (), fs)
    | .error e => (.error e, fs)

/-- Gives what a path leads to another time. -/
def touch (fs : FileSystem) (p : Path) (time : Time) : FileSystem :=
  match fs.locate true p with
  | .ok (.taken l (.file content mode _)) => fs.put l (.file content mode time)
  | .ok (.taken l (.directory _)) => fs.setTime l time
  | _ => fs

/-- Gives the file a path leads to another mode. -/
def setMode (fs : FileSystem) (p : Path) (mode : Nat) : FileSystem :=
  match fs.locate true p with
  | .ok (.taken l (.file content _ time)) => fs.put l (.file content mode time)
  | _ => fs

/-- Makes a symbolic link. -/
def makeLink (fs : FileSystem) (now : Time) (p target : Path) : FileSystem :=
  match fs.locate false p with
  | .ok (.free dir name) => fs.add now dir name (.link target)
  | _ => fs

/-- Removes what stands at a path, with all it holds; a link is not followed. -/
def remove (fs : FileSystem) (p : Path) : FileSystem :=
  match fs.locate false p with
  | .ok (.taken l _) => { fs with entries := fs.entries.filter fun (k, _) => ¬ l.isPrefixOf k }
  | _ => fs

/-- Enters a directory, if the path leads to one. -/
def enter (fs : FileSystem) (p : Path) : FileSystem :=
  match fs.locate true p with
  | .ok (.taken l (.directory _)) => { fs with workingDirectory := l }
  | _ => fs

/-- What is listed of an entry: the bytes of a file, and those that a link leads to, none if it
leads to no file. A directory is not listed. -/
def listed? (fs : FileSystem) (l : Location) : Entry → Option Bytes
  | .file content _ _ => some content
  | .link _ =>
    match fs.read (pathTo l) with
    | .ok content => some content
    | .error _ => some []
  | .directory _ => none

/-- The files and links with an extension anywhere below a directory: their paths from it and their
bytes. Links to directories are not entered. -/
def filesBelow (fs : FileSystem) (dir : Path) (extension : Bytes) : List (Bytes × Bytes) :=
  match fs.locate true dir with
  | .ok (.taken top (.directory _)) =>
    fs.entries.filterMap fun (l, e) =>
      if top.isPrefixOf l ∧ PathText.extension? (Text.join 47 l) = some extension then
        (fs.listed? l e).map fun content => (Text.join 47 (l.drop top.length), content)
      else none
  | _ => []

end KeywordDocs.FileSystem
