import KeywordDocs.Json.Basic
import KeywordDocs.Library.Reference

/-!
# Library records

A record tells what became of one library. It starts as pending and ends as a success, with the
path of the libdoc, or as an error, with a message. Records are written as JSON; that is possible
as long as their paths are text.
-/

namespace KeywordDocs

/-- What became of a library. -/
inductive LibraryStatus where
  | pending
  | success
  | error
  deriving DecidableEq, Repr

/-- The status in a report. -/
def LibraryStatus.word : LibraryStatus → String
  | .pending => "pending"
  | .success => "success"
  | .error => "error"

/-- How the libdoc of a library was come by. -/
inductive CacheStatus where
  /-- An existing libdoc was reused. -/
  | hit
  /-- The libdoc was generated. -/
  | miss
  /-- There is no libdoc: the library is pending, or it failed. -/
  | none
  deriving DecidableEq, Repr

/-- The cache status in a report. -/
def CacheStatus.word : CacheStatus → String
  | .hit => "hit"
  | .miss => "miss"
  | .none => "none"

/-- The cache status in a log line. -/
def CacheStatus.label : CacheStatus → String
  | .hit => "Hit"
  | .miss => "Miss"
  | .none => "None"

/-- What is reported of a library. -/
structure LibraryRecord where
  name : String
  libraryKey : String
  status : LibraryStatus
  message : String
  xmlLibdocPath : Option Path
  sourcePath : Option Path
  physical : Bool
  cacheStatus : CacheStatus
  diagnostic : Option String
  deriving DecidableEq, Repr

namespace LibraryRecord

/-- The record of a library that was not looked at yet. -/
def pending (r : Reference) : LibraryRecord where
  name := r.raw
  libraryKey := r.raw
  status := .pending
  message := "To be imported"
  xmlLibdocPath := none
  sourcePath := if r.isPhysical then some r.path else none
  physical := r.isPhysical
  cacheStatus := .none
  diagnostic := none

/-- The message of a success. -/
def successMessage : CacheStatus → String
  | .hit => "Reused cached libdoc"
  | _ => "Generated libdoc"

/-- The record after a success. -/
def succeed (r : LibraryRecord) (name : String) (xml : Path) (source : Option Path)
    (cache : CacheStatus) : LibraryRecord :=
  { r with
    name := name, status := .success, message := successMessage cache,
    xmlLibdocPath := some xml, sourcePath := source, cacheStatus := cache }

/-- The record after a failure. -/
def fail (r : LibraryRecord) (name message : String) (diagnostic : Option String) :
    LibraryRecord :=
  { r with
    name := name, status := .error, message := message,
    xmlLibdocPath := none, diagnostic := diagnostic }

/-- Did the library succeed? -/
def isSuccess (r : LibraryRecord) : Bool := r.status = .success

/-- A path in a report: text, or nothing where there is no path. The outer option is none where
there is a path that is not text. -/
def pathJson? : Option Path → Option (Option Json)
  | none => some none
  | some p => p.text?.map fun s => some (.string s)

/-- The record as JSON. The libdoc path and the diagnostic are left out where there is none. -/
def toJson? (r : LibraryRecord) : Option Json := do
  let xml ← pathJson? r.xmlLibdocPath
  let source ← pathJson? r.sourcePath
  some (.object (
    [("name", .string r.name), ("libraryKey", .string r.libraryKey),
      ("status", .string r.status.word), ("message", .string r.message)] ++
    (xml.map (("xmlLibdocPath", ·))).toList ++
    [("sourcePath", source.getD .null), ("physical", .bool r.physical),
      ("cacheStatus", .string r.cacheStatus.word)] ++
    (r.diagnostic.map fun d => ("diagnostic", Json.string d)).toList))

end LibraryRecord

end KeywordDocs
