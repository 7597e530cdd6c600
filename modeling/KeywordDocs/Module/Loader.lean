import KeywordDocs.Action
import KeywordDocs.Library.Reference

/-!
# Module loaders

A loader is asked to load a file, to import a module by its dotted name, and to tell whether a
module has an attribute. It may answer from the world, change it, and log events.
-/

namespace KeywordDocs

/-- Why a module could not be loaded. -/
inductive LoadError where
  /-- The module can not be imported. -/
  | notImportable (reason : String)
  /-- The host could not be asked. -/
  | hostFailed (reason : String)
  deriving DecidableEq, Repr

/-- The text of a load error, as users see it. -/
def LoadError.message : LoadError → String
  | .notImportable reason => reason
  | .hostFailed reason => "host interpreter failure: " ++ reason

/-- A module as its loader describes it. -/
structure LoadedModule where
  importName : String
  source : Option Path
  deriving DecidableEq, Repr

/-- The three questions a loader answers. -/
structure ModuleLoader (σ : Type) where
  loadFile : (name : String) → (path : Path) → ExceptT LoadError (Action σ) LoadedModule
  importModule : (dotted : String) → ExceptT LoadError (Action σ) LoadedModule
  hasAttribute : LoadedModule → (member : String) → ExceptT LoadError (Action σ) Bool

end KeywordDocs
