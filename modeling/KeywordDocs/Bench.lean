import KeywordDocs.Artifact.Generator
import KeywordDocs.Module.Loader

/-!
# A loader and a generator that answer from tables

The answers of the table loader depend on the question only. The table generator writes a file
that tells for which reference and in which call it was made. Both keep a log of what they were
asked.
-/

namespace KeywordDocs

/-- A question to a loader. -/
inductive LoaderCall where
  | loadFile (name : String) (path : Path)
  | importModule (dotted : String)
  | hasAttribute (importName member : String)
  deriving DecidableEq, Repr

/-- A call of a generator. -/
structure GeneratorCall where
  reference : Reference
  cacheKey : String
  cacheDir : Path
  deriving DecidableEq, Repr

/-- What was asked so far, the latest question first. -/
structure Bench where
  loaderCalls : List LoaderCall
  generatorCalls : List GeneratorCall
  deriving DecidableEq, Repr

namespace Bench

/-- Nothing was asked yet. -/
def fresh : Bench := ⟨[], []⟩

/-- Logs a question to the loader. -/
def noteLoader (call : LoaderCall) : Action Bench Unit :=
  Action.updateHost fun b => ((), { b with loaderCalls := call :: b.loaderCalls })

/-- Logs a call of the generator and gives the number of calls so far. -/
def noteGenerator (call : GeneratorCall) : Action Bench Nat :=
  Action.updateHost fun b =>
    (b.generatorCalls.length + 1, { b with generatorCalls := call :: b.generatorCalls })

end Bench

/-- A module in a table: found, under its own name or another one, or not. -/
inductive TableModule where
  | found (importName : Option String) (source : Option Path)
  | failed (error : LoadError)
  deriving DecidableEq, Repr

/-- The modules, files and attributes that a table loader knows. -/
structure LoaderTable where
  modules : List (String × TableModule)
  files : List (String × TableModule)
  attributes : List (String × (List String ⊕ LoadError))
  deriving DecidableEq, Repr

namespace LoaderTable

/-- The answer for a module that is looked up in a table. -/
def answer (entry : Option TableModule) (name missing : String) :
    Except LoadError LoadedModule :=
  match entry with
  | some (.found importName source) => .ok ⟨importName.getD name, source⟩
  | some (.failed e) => .error e
  | none => .error (.notImportable missing)

/-- Does a module have an attribute? -/
def hasAttribute (t : LoaderTable) (m : LoadedModule) (member : String) :
    Except LoadError Bool :=
  match t.attributes.lookup m.importName with
  | some (.inl members) => .ok (members.contains member)
  | some (.inr e) => .error e
  | none => .ok false

/-- The loader that answers from the tables. -/
def loader (t : LoaderTable) : ModuleLoader Bench where
  loadFile name path := do
    ExceptT.lift (Bench.noteLoader (.loadFile name path))
    ExceptT.mk (pure (answer (t.files.lookup path.display) name
      ("No such file: '" ++ path.display ++ "'")))
  importModule dotted := do
    ExceptT.lift (Bench.noteLoader (.importModule dotted))
    ExceptT.mk (pure (answer (t.modules.lookup dotted) dotted
      ("No module named '" ++ dotted ++ "'")))
  hasAttribute m member := do
    ExceptT.lift (Bench.noteLoader (.hasAttribute m.importName member))
    ExceptT.mk (pure (t.hasAttribute m member))

end LoaderTable

/-- What a table generator does for a reference. -/
inductive GeneratorRule where
  | fail (failure : Failure)
  /-- Writes the file with a time, unless `skip` is set, and gives another path if there is one. -/
  | succeed (skip : Bool) (time : Time) (path : Option Path)
  deriving DecidableEq, Repr

/-- The rules of a table generator: by reference, and for all other references. -/
structure GeneratorTable where
  rules : List (String × GeneratorRule)
  others : GeneratorRule
  deriving DecidableEq, Repr

/-- The generator that goes by the table. -/
def GeneratorTable.generator (t : GeneratorTable) : Generator Bench := fun r key cacheDir => do
  let count ← ExceptT.lift (Bench.noteGenerator ⟨r, key, cacheDir⟩)
  match (t.rules.lookup r.raw).getD t.others with
  | .fail failure => throw failure
  | .succeed skip time path =>
    let target := artifactPath cacheDir key
    if ¬ skip then
      let content := Utf8.encode (r.raw ++ "#" ++ toString count)
      let write (now : Time) (fs : FileSystem) := fs.writeWithParents now target content time
      match ← ExceptT.lift (Action.updateFiles write) with
      | .ok _ => pure ()
      | .error e => throw ⟨.os e, []⟩
    return path.getD target

end KeywordDocs
