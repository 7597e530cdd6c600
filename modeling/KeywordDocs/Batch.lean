import KeywordDocs.Host.Environment
import KeywordDocs.Library.Catalog
import KeywordDocs.Processor

/-!
# Batches

A batch processes libraries one after another against one cache directory and reports on all of
them. Only a cache directory that can not be made stops it.
-/

namespace KeywordDocs

/-- What is reported of a batch. -/
structure Report where
  libraries : Catalog
  environment : HostEnvironment
  deriving DecidableEq, Repr

namespace Report

/-- The report as JSON, if all its paths are text. -/
def toJson? (r : Report) : Option Json :=
  r.libraries.toJson?.map fun libraries =>
    .object [("libraries", libraries), ("environment", r.environment.toJson)]

/-- The report in writing, on one line or spread over lines. -/
def render (r : Report) (layout : Json.Layout) : Except Failure String :=
  match r.toJson? with
  | some v => .ok (String.ofList (v.render layout 0))
  | none => .error (.root .pathNotText)

end Report

namespace Processor

variable {σ : Type}

/-- Processes libraries one after another and puts their records into a catalog. -/
def processAll (p : Processor σ) (cacheDir : Path) :
    Catalog → Registry → List Reference → Action σ (Catalog × Registry)
  | catalog, registry, [] => return (catalog, registry)
  | catalog, registry, r :: rest => do
    let (record, registry) ← p.process cacheDir registry r
    p.processAll cacheDir (catalog.insert record) registry rest

/-- The event that a batch ends with. -/
def batchEvent (cacheDir : Path) (catalog : Catalog) : Event :=
  ⟨.info, .batch, "batch finished",
    [("operation", .quoted "batch"),
     ("status", .quoted (if catalog.failures = 0 then "success" else "error")),
     ("library_count", .number catalog.size), ("error_count", .number catalog.failures),
     ("cache_dir", .plain cacheDir.display)]⟩

/-- Processes a batch: the report, and the registry afterwards. -/
def runBatch (p : Processor σ) (environment : HostEnvironment) (cacheDir : Path)
    (registry : Registry) (references : List Reference) :
    Action σ (Except Failure Report × Registry) := do
  match ← makeCacheDir cacheDir with
  | .error e => return (.error e, registry)
  | .ok _ =>
    let (catalog, registry) ← p.processAll cacheDir .empty registry references
    Action.log (batchEvent cacheDir catalog)
    return (.ok ⟨catalog, environment⟩, registry)

end Processor

end KeywordDocs
