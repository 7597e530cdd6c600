import KeywordDocs.Digest.Sha256
import KeywordDocs.Path
import KeywordDocs.Text.Lowercase

/-!
# Library references

A keyword library is named on the command line either by a dotted module name or by the path of
a source file. The text alone decides which: a reference that ends in `.py`, in any case, is a
path. Everything a run needs to know of a reference before looking at the machine is read off
its text here: the name the library is loaded under, the module to import, and the key its libdoc
is kept under.
-/

namespace KeywordDocs

/-- How a reference names its library. -/
inductive ReferenceKind where
  /-- By the path of its source file. -/
  | physical
  /-- By its module name. -/
  | named
  deriving DecidableEq, Repr

/-- A reference to a keyword library, as written. -/
structure Reference where
  raw : String
  deriving DecidableEq, Repr

namespace Reference

/-- The ending of a source file's path, in lowercase. -/
def sourceSuffix : List Char := ['.', 'p', 'y']

/-- A reference whose lowercase ends in `.py` is a path. -/
def kind (r : Reference) : ReferenceKind :=
  if sourceSuffix.isSuffixOf (Text.lowercase r.raw.toList) then .physical else .named

/-- Does the reference name a source file? -/
def isPhysical (r : Reference) : Bool := r.kind = .physical

/-- The name a library is loaded under: the stem of its file, or the module name itself. -/
def logicalName (r : Reference) : String :=
  match r.kind with
  | .physical => ((PathText.fileStem? r.raw.toList).map String.ofList).getD r.raw
  | .named => r.raw

/-- The libraries that come with Robot Framework and are referred to by their bare names. -/
def standardLibraries : List String :=
  ["BuiltIn", "Collections", "DateTime", "Dialogs", "OperatingSystem", "Process", "Remote",
   "Screenshot", "String", "Telnet", "XML"]

/-- The package the standard libraries live in. -/
def standardPackage : String := "robot.libraries."

/-- The module to import for the reference. -/
def importTarget (r : Reference) : String :=
  if r.raw ∈ standardLibraries then standardPackage ++ r.raw else r.raw

/-- The first 16 hexadecimal digits of the digest of the text. -/
def fingerprint (r : Reference) : String :=
  Sha256.hex ((Sha256.digest (Utf8.encode r.raw)).take 8)

/-- The key the library's libdoc is kept under. Files of one name at different paths get
different keys by the digest of the path. -/
def cacheKey (r : Reference) : String :=
  match r.kind with
  | .physical => r.logicalName ++ "-" ++ r.fingerprint
  | .named => r.raw

/-- The reference read as a path. -/
def path (r : Reference) : Path := Path.ofString r.raw

/-- The references of a comma-separated list. -/
def parseList (list : String) : List Reference := (Text.entries list).map Reference.mk

end Reference

/-- The path of the libdoc kept under a key. -/
def artifactPath (cacheDir : Path) (cacheKey : String) : Path :=
  cacheDir.join (Path.ofString (cacheKey ++ ".xml"))

end KeywordDocs
