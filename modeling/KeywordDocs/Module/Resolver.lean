import KeywordDocs.Module.Loader
import KeywordDocs.Module.Registry

/-!
# Resolving references

A reference is resolved to a module and the module is registered under its logical name. A file is
loaded afresh each time; a module name that is registered is not looked up again.

A dotted name may name a class inside a module. When the whole name can not be imported, the part
before its last dot is, and stands for the whole when it has the part after the dot as an
attribute.
-/

namespace KeywordDocs

/-- A resolution that failed: the name that was tried, and why it could not be loaded. -/
structure ResolveError where
  name : String
  cause : LoadError
  deriving DecidableEq, Repr

/-- The text of a resolve error, as users see it. -/
def ResolveError.message (e : ResolveError) : String :=
  "Could not import '" ++ e.name ++ "': '" ++ e.cause.message ++ "'"

/-- A dotted name cut at its last dot. -/
def splitLastDot? (dotted : String) : Option (String × String) :=
  match (Text.split '.' dotted.toList).reverse with
  | [] | [_] => none
  | last :: rest => some (String.ofList (Text.join '.' rest.reverse), String.ofList last)

namespace ModuleLoader

variable {σ : Type}

/-- Imports the module that `dotted` names, or the module in which it names an attribute. The
error of the direct import counts when there is no such module or attribute. -/
def importNamed (loader : ModuleLoader σ) (dotted : String) :
    ExceptT LoadError (Action σ) LoadedModule :=
  tryCatch (loader.importModule dotted) fun direct =>
    match splitLastDot? dotted with
    | none => throw direct
    | some (parent, member) =>
      if parent = "" then throw direct
      else do
        let m ← loader.importModule parent
        if ← loader.hasAttribute m member then return m else throw direct

/-- Loads the module of a reference that is not registered. -/
def load (loader : ModuleLoader σ) (r : Reference) : ExceptT LoadError (Action σ) LoadedModule :=
  match r.kind with
  | .physical => loader.loadFile r.logicalName r.path
  | .named => loader.importNamed r.importTarget

/-- The module already registered that stands for a reference. Files are always loaded afresh. -/
def registered? (registry : Registry) (r : Reference) : Option ResolvedModule :=
  match r.kind with
  | .physical => none
  | .named => registry.get? r.logicalName

/-- Resolves a reference: its module, and the registry afterwards. -/
def resolve (loader : ModuleLoader σ) (registry : Registry) (r : Reference) :
    Action σ (Except ResolveError ResolvedModule × Registry) := do
  match registered? registry r with
  | some m =>
    Action.log ⟨.debug, .resolver, "reusing registered module", [("library", .plain r.raw)]⟩
    return (.ok m, registry)
  | none =>
    match ← (loader.load r).run with
    | .error e => return (.error ⟨r.logicalName, e⟩, registry)
    | .ok loaded =>
      let m : ResolvedModule := ⟨r.logicalName, loaded.importName, loaded.source, r⟩
      return (.ok m, registry.register m)

end ModuleLoader

end KeywordDocs
