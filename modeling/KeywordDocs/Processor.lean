import KeywordDocs.Artifact.Cache
import KeywordDocs.Artifact.Generator
import KeywordDocs.Library.Record
import KeywordDocs.Module.Resolver

/-!
# Processing a library

A library is resolved, its libdoc is looked for in the cache, and generated where it is missing or
too old. Whatever goes wrong ends up in the record of the library. Afterwards the name of the
library is released, so that the next library of that name is loaded afresh.
-/

namespace KeywordDocs

/-- At which step a library failed. -/
inductive FailureKind where
  | resolution
  | generation
  deriving DecidableEq, Repr

/-- The kind of a failure in a log line. -/
def FailureKind.label : FailureKind → String
  | .resolution => "Resolution"
  | .generation => "Generation"

/-- Why a library failed, in the words of its record. -/
structure LibraryFailure where
  kind : FailureKind
  message : String
  diagnostic : Option String
  deriving DecidableEq, Repr

namespace LibraryFailure

/-- A library that could not be resolved. -/
def ofResolve (e : ResolveError) : LibraryFailure := ⟨.resolution, e.message, none⟩

/-- A library whose libdoc could not be generated. -/
def ofGenerate (e : Failure) : LibraryFailure :=
  ⟨.generation, "Unexpected error: " ++ e.inline, some e.report⟩

end LibraryFailure

/-- A library that was processed: the name of its module, its libdoc, its source, and how the
libdoc was come by. -/
structure Processed where
  name : String
  artifact : Path
  source : Option Path
  cacheStatus : CacheStatus
  deriving DecidableEq, Repr

/-- The tools for processing libraries. -/
structure Processor (σ : Type) where
  loader : ModuleLoader σ
  generator : Generator σ

namespace Processor

variable {σ : Type}

/-- The source that is reported: the file itself, or where the module was found. -/
def reportedSource (r : Reference) (m : ResolvedModule) : Option Path :=
  if r.isPhysical then some r.path else m.source

/-- An event of the processor. -/
def event (level : Level) (message : String) (fields : List (String × FieldValue)) : Event :=
  ⟨level, .processor, message, fields⟩

/-- Provides the libdoc of a module: reuses the one in the cache or generates it. -/
def provide (p : Processor σ) (cacheDir : Path) (r : Reference) (m : ResolvedModule) :
    ExceptT Failure (Action σ) (Path × CacheStatus) := do
  let key := r.cacheKey
  Action.note (event .debug "validating cache"
    [("library", .plain r.raw), ("operation", .quoted "validate"), ("cache_key", .plain key)])
  match ← ExceptT.lift (CacheCheck.run cacheDir key m.source) with
  | .hit path =>
    Action.note (event .debug "reusing libdoc"
      [("cache_key", .plain key), ("status", .quoted "hit")])
    return (path, .hit)
  | check =>
    Action.note (event .debug "regenerating libdoc"
      [("cache_key", .plain key), ("status", .quoted "miss"),
       ("stale", .flag (check = .stale)), ("operation", .quoted "generate")])
    let path ← p.generator r key cacheDir
    return (path, .miss)

/-- Resolves a library and provides its libdoc; also gives the registry afterwards. -/
def attempt (p : Processor σ) (cacheDir : Path) (registry : Registry) (r : Reference) :
    Action σ (Except LibraryFailure Processed × Registry) := do
  Action.log (event .debug "resolving"
    [("library", .plain r.raw), ("operation", .quoted "resolve")])
  match ← p.loader.resolve registry r with
  | (.error e, registry) => return (.error (.ofResolve e), registry)
  | (.ok m, registry) =>
    match ← (p.provide cacheDir r m).run with
    | .error e => return (.error (.ofGenerate e), registry)
    | .ok (artifact, status) =>
      return (.ok ⟨m.name, artifact, reportedSource r m, status⟩, registry)

/-- The record of an attempt. -/
def conclude (r : Reference) : Except LibraryFailure Processed → LibraryRecord
  | .ok done =>
    (LibraryRecord.pending r).succeed done.name done.artifact done.source done.cacheStatus
  | .error e => (LibraryRecord.pending r).fail r.logicalName e.message e.diagnostic

/-- The event that an attempt ends with. -/
def finalEvent (r : Reference) : Except LibraryFailure Processed → Event
  | .ok done => event .info "library processed"
      [("library", .plain r.raw), ("operation", .quoted "process"),
       ("status", .quoted "success"), ("cache_status", .plain done.cacheStatus.label)]
  | .error e => event .warn e.message
      [("library", .plain r.raw), ("operation", .quoted "process"),
       ("status", .quoted "error"), ("kind", .plain e.kind.label)]

/-- Processes a library: its record, and the registry afterwards. -/
def process (p : Processor σ) (cacheDir : Path) (registry : Registry) (r : Reference) :
    Action σ (LibraryRecord × Registry) := do
  let (result, registry) ← p.attempt cacheDir registry r
  Action.log (finalEvent r result)
  let (released, registry) := registry.release r.logicalName
  if released then
    Action.log (event .trace "module released"
      [("module", .plain r.logicalName), ("operation", .quoted "release")])
  return (conclude r result, registry)

end Processor

end KeywordDocs
