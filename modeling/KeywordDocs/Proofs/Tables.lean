import KeywordDocs.Bench
import KeywordDocs.Proofs.Calls
import KeywordDocs.Proofs.Directories

/-!
# The tools that answer from tables

The table loader has fixed answers (`LoaderTable.loader_fixed`). The table generator writes a file or
leaves the files alone, so that it keeps all directories and links (`GeneratorTable.generator_keeps`).
-/

namespace KeywordDocs

namespace LoaderTable

/-- Whatever is said of the files only, no question to a table breaks. -/
theorem loader_keeps (t : LoaderTable) (P : FileSystem → Prop) :
    t.loader.Keeps (fun w => P w.files) where
  loadFile _ _ _ hw := hw
  importModule _ _ hw := hw
  hasAttribute _ _ _ hw := hw

theorem loader_fixed (t : LoaderTable) : t.loader.Fixed where
  loadFile _ _ _ _ := rfl
  importModule _ _ _ := rfl
  hasAttribute _ _ _ _ := rfl
  files fs := t.loader_keeps (· = fs)

end LoaderTable

namespace GeneratorTable

/-- Whatever lasts as long as the ways of the file system are kept, no call of a table breaks. -/
theorem generator_keeps (t : GeneratorTable) {P : FileSystem → Prop}
    (hP : ∀ fs fs', FileSystem.Ways fs fs' → P fs → P fs') (r : Reference) (key : String)
    (cacheDir : Path) : Action.Keeps (fun w => P w.files) (t.generator r key cacheDir).run := by
  rw [← Action.matches_both_iff]
  refine (Action.matches_both_iff.mpr fun _ hw => hw).run_lift.run_bind fun count => ?_
  cases (t.rules.lookup r.raw).getD t.others with
  | fail failure => exact Action.Matches.pure _
  | succeed skip time path =>
    cases skip with
    | true => exact Action.Matches.pure _
    | false =>
      have hwrite : Action.Keeps (fun w : World Bench => P w.files) (Action.updateFiles
          fun now fs => fs.writeWithParents now (artifactPath cacheDir key)
            (Utf8.encode (r.raw ++ "#" ++ toString count)) time) :=
        fun w hw => hP _ _ (FileSystem.ways_of_writeWithParents w.files _ _ _ time) hw
      refine (Action.matches_both_iff.mpr hwrite).run_lift.run_bind fun written => ?_
      cases written with
      | error e => exact (Action.Matches.pure _).run_bind fun _ => Action.Matches.pure _
      | ok _ => exact Action.Matches.pure _

end GeneratorTable

/-! ### A sample -/

namespace Sample

/-- A loader that finds `foo`, by its name and by its file, and nothing else. -/
def modules : LoaderTable where
  modules := [("foo", .found none (some (.ofString "/lib/foo.py")))]
  files := [("/lib/foo.py", .found none (some (.ofString "/lib/foo.py")))]
  attributes := []

/-- A generator that writes all files at one time. -/
def libdocs : GeneratorTable where
  rules := []
  others := .succeed false 200 none

def processor : Processor Bench := ⟨modules.loader, libdocs.generator⟩

/-- A file system that holds the file of `foo` and no cache directory. -/
def files : FileSystem where
  entries := [([Utf8.encode "lib"], .directory 50),
    ([Utf8.encode "lib", Utf8.encode "foo.py"], .file [] FileSystem.plainMode 100)]
  workingDirectory := []
  rootTime := 50
  readsAll := false

def world : World Bench := ⟨files, 150, .fresh⟩

def cacheDir : Path := .ofString "/cache"

/-- The files once the cache directory is made. -/
def made : FileSystem := files.add 150 [] (Utf8.encode "cache") (.directory 150)

def environment : HostEnvironment := .ofFacts ⟨[]⟩ ⟨"3.12.1", "/usr/bin/python3", "linux", []⟩

theorem processor_keeps_directory :
    processor.Keeps (fun w => w.files.isDirectory cacheDir = true) cacheDir where
  loader := modules.loader_keeps fun fs => fs.isDirectory cacheDir = true
  generator r key := libdocs.generator_keeps (fun _ _ ways => ways.isDirectory) r key cacheDir

end Sample

end KeywordDocs
