import KeywordDocs.Text.Split
import KeywordDocs.Text.Utf8

/-!
# Environment variables

The value of a variable is bytes that need not be text. Several variables hold a list of paths,
separated by colons.
-/

namespace KeywordDocs

/-- The environment variables that are set, with their values. -/
structure Variables where
  values : List (String × Bytes)
  deriving DecidableEq, Repr

namespace Variables

/-- The value of a variable, if it is set. -/
def get? (v : Variables) (name : String) : Option Bytes := v.values.lookup name

/-- The value of a variable, if it is set to text. -/
def text? (v : Variables) (name : String) : Option String := (v.get? name).bind Utf8.decode?

/-- Sets a variable. -/
def set (v : Variables) (name : String) (value : Bytes) : Variables :=
  ⟨(name, value) :: v.values.filter (·.1 ≠ name)⟩

/-- A variable that was set has that value. -/
@[simp]
theorem get?_set_self (v : Variables) (name : String) (value : Bytes) :
    (v.set name value).get? name = some value := by
  simp [get?, set]

end Variables

/-- The mark between the paths of a list. -/
def pathListMark : UInt8 := 58

/-- The paths of a list. The empty list of bytes holds one empty path. -/
def splitPathList (value : Bytes) : List Bytes := Text.split pathListMark value

/-- The list of some paths, if none of them holds the mark. -/
def joinPathList? (paths : List Bytes) : Option Bytes :=
  if paths.any (pathListMark ∈ ·) then none else some (Text.join pathListMark paths)

end KeywordDocs
