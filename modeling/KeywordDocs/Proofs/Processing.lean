import KeywordDocs.Batch
import KeywordDocs.Proofs.Catalog
import KeywordDocs.Proofs.Directories

/-!
# What comes of processing a library

`Processor.Step` lists the four ways in which a library can be processed: it is not resolved, its
libdoc is reused, or its libdoc is generated, with or without success. `process_step` says that
there is no other way, so that facts about processing are proved by cases on it.

Two things hold of all four ways: the record is that of the reference (`process_libraryKey`), and
the registry has lost the name of the reference and nothing else (`process_registry`).

A batch is then a matter of its records: `processAll_eq` takes the catalog apart from the processing,
and `runBatch_of_made` is the batch in a world in which the cache directory could be made.
-/

namespace KeywordDocs

/-! ### Outcomes of actions -/

namespace Action

variable {σ α β : Type}

@[simp]
theorem value_pure (a : α) (w : World σ) : ((pure a : Action σ α) w).value = a := rfl

@[simp]
theorem world_pure (a : α) (w : World σ) : ((pure a : Action σ α) w).world = w := rfl

@[simp]
theorem value_map (f : α → β) (x : Action σ α) (w : World σ) :
    ((f <$> x) w).value = f (x w).value := rfl

@[simp]
theorem world_map (f : α → β) (x : Action σ α) (w : World σ) :
    ((f <$> x) w).world = (x w).world := rfl

@[simp]
theorem world_log (e : Event) (w : World σ) : ((log e : Action σ Unit) w).world = w := rfl

@[simp]
theorem value_files (w : World σ) : ((files : Action σ FileSystem) w).value = w.files := rfl

@[simp]
theorem world_files (w : World σ) : ((files : Action σ FileSystem) w).world = w := rfl

end Action

/-! ### Resolving -/

namespace Registry

/-- A module that is registered and released leaves what was registered before, without its name. -/
theorem erase_register (registry : Registry) (m : ResolvedModule) :
    (registry.register m).erase m.name = registry.erase m.name := by
  simp [register, erase]

@[simp]
theorem erase_empty (name : String) : empty.erase name = empty := rfl

end Registry

namespace ModuleLoader

variable {σ : Type} (loader : ModuleLoader σ) {registry : Registry} {r : Reference} {w : World σ}

theorem resolve_of_registered {m : ResolvedModule} (h : registered? registry r = some m) :
    (loader.resolve registry r w).value = (.ok m, registry) ∧
      (loader.resolve registry r w).world = w := by
  simp [resolve, h]

theorem resolve_of_error (h : registered? registry r = none) {e : LoadError}
    (he : ((loader.load r).run w).value = .error e) :
    (loader.resolve registry r w).value = (.error ⟨r.logicalName, e⟩, registry) ∧
      (loader.resolve registry r w).world = ((loader.load r).run w).world := by
  simp [resolve, h, he]

theorem resolve_of_ok (h : registered? registry r = none) {l : LoadedModule}
    (hl : ((loader.load r).run w).value = .ok l) :
    (loader.resolve registry r w).value =
        (.ok ⟨r.logicalName, l.importName, l.source, r⟩,
          registry.register ⟨r.logicalName, l.importName, l.source, r⟩) ∧
      (loader.resolve registry r w).world = ((loader.load r).run w).world := by
  simp [resolve, h, hl]

/-- Resolving a reference registers nothing that releasing its name does not take back. -/
theorem erase_resolve (registry : Registry) (r : Reference) (w : World σ) :
    (loader.resolve registry r w).value.2.erase r.logicalName = registry.erase r.logicalName := by
  cases h : registered? registry r with
  | some m => rw [(loader.resolve_of_registered h).1]
  | none =>
    cases hl : ((loader.load r).run w).value with
    | error e => rw [(loader.resolve_of_error h hl).1]
    | ok l => rw [(loader.resolve_of_ok h hl).1]; exact registry.erase_register _

end ModuleLoader

/-! ### Processing one library -/

namespace Processor

variable {σ : Type} (p : Processor σ)

/-- The ways in which a library can be processed: the record and the world that are left. -/
inductive Step (cacheDir : Path) (registry : Registry) (r : Reference) (w : World σ) :
    LibraryRecord → World σ → Prop
  | unresolved {e : ResolveError} (resolve : (p.loader.resolve registry r w).value.1 = .error e) :
      Step cacheDir registry r w (conclude r (.error (.ofResolve e)))
        (p.loader.resolve registry r w).world
  | reused {m : ResolvedModule} {path : Path}
      (resolve : (p.loader.resolve registry r w).value.1 = .ok m)
      (check : CacheCheck.look (p.loader.resolve registry r w).world.files cacheDir r.cacheKey
        m.source = .hit path) :
      Step cacheDir registry r w (conclude r (.ok ⟨m.name, path, reportedSource r m, .hit⟩))
        (p.loader.resolve registry r w).world
  | failed {m : ResolvedModule} {e : Failure}
      (resolve : (p.loader.resolve registry r w).value.1 = .ok m)
      (check : ∀ path, CacheCheck.look (p.loader.resolve registry r w).world.files cacheDir
        r.cacheKey m.source ≠ .hit path)
      (generate : ((p.generator r r.cacheKey cacheDir).run
        (p.loader.resolve registry r w).world).value = .error e) :
      Step cacheDir registry r w (conclude r (.error (.ofGenerate e)))
        ((p.generator r r.cacheKey cacheDir).run (p.loader.resolve registry r w).world).world
  | generated {m : ResolvedModule} {path : Path}
      (resolve : (p.loader.resolve registry r w).value.1 = .ok m)
      (check : ∀ path, CacheCheck.look (p.loader.resolve registry r w).world.files cacheDir
        r.cacheKey m.source ≠ .hit path)
      (generate : ((p.generator r r.cacheKey cacheDir).run
        (p.loader.resolve registry r w).world).value = .ok path) :
      Step cacheDir registry r w (conclude r (.ok ⟨m.name, path, reportedSource r m, .miss⟩))
        ((p.generator r r.cacheKey cacheDir).run (p.loader.resolve registry r w).world).world

variable {p} {cacheDir : Path} {registry : Registry} {r : Reference} {w : World σ}

/-- A libdoc that is found in the cache is provided as it is. -/
theorem provide_of_hit {m : ResolvedModule} {path : Path}
    (h : CacheCheck.look w.files cacheDir r.cacheKey m.source = .hit path) :
    ((p.provide cacheDir r m).run w).value = .ok (path, .hit) ∧
      ((p.provide cacheDir r m).run w).world = w := by
  simp [provide, CacheCheck.run, Action.note, ExceptT.run_bind, Except.map, h]

/-- A libdoc that is missing or too old is left to the generator. -/
theorem provide_of_not_hit {m : ResolvedModule}
    (h : ∀ path, CacheCheck.look w.files cacheDir r.cacheKey m.source ≠ .hit path) :
    ((p.provide cacheDir r m).run w).value =
        ((p.generator r r.cacheKey cacheDir).run w).value.map (·, .miss) ∧
      ((p.provide cacheDir r m).run w).world =
        ((p.generator r r.cacheKey cacheDir).run w).world := by
  cases hlook : CacheCheck.look w.files cacheDir r.cacheKey m.source with
  | hit path => exact absurd hlook (h path)
  | stale => simp [provide, CacheCheck.run, Action.note, ExceptT.run_bind, hlook]
  | missing => simp [provide, CacheCheck.run, Action.note, ExceptT.run_bind, hlook]

theorem attempt_of_unresolved (cacheDir : Path) {e : ResolveError}
    (h : (p.loader.resolve registry r w).value.1 = .error e) :
    (p.attempt cacheDir registry r w).value =
        (.error (.ofResolve e), (p.loader.resolve registry r w).value.2) ∧
      (p.attempt cacheDir registry r w).world = (p.loader.resolve registry r w).world := by
  generalize hfound : (p.loader.resolve registry r w).value = found at h ⊢
  obtain ⟨result, after⟩ := found
  subst h
  simp [attempt, hfound]

theorem attempt_of_failed {m : ResolvedModule} {e : Failure}
    (h : (p.loader.resolve registry r w).value.1 = .ok m)
    (he : ((p.provide cacheDir r m).run (p.loader.resolve registry r w).world).value = .error e) :
    (p.attempt cacheDir registry r w).value =
        (.error (.ofGenerate e), (p.loader.resolve registry r w).value.2) ∧
      (p.attempt cacheDir registry r w).world =
        ((p.provide cacheDir r m).run (p.loader.resolve registry r w).world).world := by
  generalize hfound : (p.loader.resolve registry r w).value = found at h ⊢
  obtain ⟨result, after⟩ := found
  subst h
  simp [attempt, hfound, he]

theorem attempt_of_provided {m : ResolvedModule} {path : Path} {status : CacheStatus}
    (h : (p.loader.resolve registry r w).value.1 = .ok m)
    (hp : ((p.provide cacheDir r m).run (p.loader.resolve registry r w).world).value =
      .ok (path, status)) :
    (p.attempt cacheDir registry r w).value =
        (.ok ⟨m.name, path, reportedSource r m, status⟩,
          (p.loader.resolve registry r w).value.2) ∧
      (p.attempt cacheDir registry r w).world =
        ((p.provide cacheDir r m).run (p.loader.resolve registry r w).world).world := by
  generalize hfound : (p.loader.resolve registry r w).value = found at h ⊢
  obtain ⟨result, after⟩ := found
  subst h
  simp [attempt, hfound, hp]

/-- Processing a library is an attempt, its record, and the release of the name. -/
theorem process_of_attempt (p : Processor σ) (cacheDir : Path) (registry : Registry) (r : Reference)
    (w : World σ) :
    (p.process cacheDir registry r w).value =
        (conclude r (p.attempt cacheDir registry r w).value.1,
          (p.attempt cacheDir registry r w).value.2.erase r.logicalName) ∧
      (p.process cacheDir registry r w).world = (p.attempt cacheDir registry r w).world := by
  generalize hattempt : (p.attempt cacheDir registry r w).value = attempted
  obtain ⟨result, after⟩ := attempted
  by_cases h : after.contains r.logicalName <;> simp [process, Registry.release, hattempt, h]

/-- A library is processed in one of the four ways. -/
theorem process_step (p : Processor σ) (cacheDir : Path) (registry : Registry) (r : Reference)
    (w : World σ) :
    p.Step cacheDir registry r w (p.process cacheDir registry r w).value.1
      (p.process cacheDir registry r w).world := by
  obtain ⟨hvalue, hworld⟩ := p.process_of_attempt cacheDir registry r w
  rw [hvalue, hworld]
  cases hres : (p.loader.resolve registry r w).value.1 with
  | error e =>
    obtain ⟨ha, hw⟩ := attempt_of_unresolved cacheDir hres
    rw [ha, hw]
    exact .unresolved hres
  | ok m =>
    by_cases hcheck : ∃ path, CacheCheck.look (p.loader.resolve registry r w).world.files cacheDir
        r.cacheKey m.source = .hit path
    · obtain ⟨path, hhit⟩ := hcheck
      obtain ⟨hp, hpw⟩ := provide_of_hit (p := p) hhit
      obtain ⟨ha, hw⟩ := attempt_of_provided hres hp
      rw [ha, hw, hpw]
      exact .reused hres hhit
    · have hmiss := not_exists.mp hcheck
      obtain ⟨hp, hpw⟩ := provide_of_not_hit (p := p) hmiss
      cases hgen : ((p.generator r r.cacheKey cacheDir).run
          (p.loader.resolve registry r w).world).value with
      | error e =>
        rw [hgen] at hp
        obtain ⟨ha, hw⟩ := attempt_of_failed hres hp
        rw [ha, hw, hpw]
        exact .failed hres hmiss hgen
      | ok path =>
        rw [hgen] at hp
        obtain ⟨ha, hw⟩ := attempt_of_provided hres hp
        rw [ha, hw, hpw]
        exact .generated hres hmiss hgen

theorem conclude_libraryKey (r : Reference) (result : Except LibraryFailure Processed) :
    (conclude r result).libraryKey = r.raw := by
  cases result <;> rfl

/-- The record of a library has the reference for its key, however the library was processed. -/
theorem process_libraryKey (p : Processor σ) (cacheDir : Path) (registry : Registry) (r : Reference)
    (w : World σ) : (p.process cacheDir registry r w).value.1.libraryKey = r.raw := by
  rw [(p.process_of_attempt cacheDir registry r w).1, conclude_libraryKey]

/-- After an attempt the registry is as the resolution of the reference left it. -/
theorem attempt_registry (p : Processor σ) (cacheDir : Path) (registry : Registry) (r : Reference)
    (w : World σ) :
    (p.attempt cacheDir registry r w).value.2 = (p.loader.resolve registry r w).value.2 := by
  cases hres : (p.loader.resolve registry r w).value.1 with
  | error e => rw [(attempt_of_unresolved cacheDir hres).1]
  | ok m =>
    cases hp : ((p.provide cacheDir r m).run (p.loader.resolve registry r w).world).value with
    | error e => rw [(attempt_of_failed hres hp).1]
    | ok provided => rw [(attempt_of_provided hres hp).1]

/-- Processing a library takes its name out of the registry and changes no other name. -/
theorem process_registry (p : Processor σ) (cacheDir : Path) (registry : Registry) (r : Reference)
    (w : World σ) : (p.process cacheDir registry r w).value.2 = registry.erase r.logicalName := by
  rw [(p.process_of_attempt cacheDir registry r w).1, attempt_registry]
  exact p.loader.erase_resolve registry r w

/-! ### Processing a batch -/

/-- Processes libraries one after another: their records in order, and the registry afterwards. -/
def processEach (p : Processor σ) (cacheDir : Path) :
    Registry → List Reference → Action σ (List LibraryRecord × Registry)
  | registry, [] => return ([], registry)
  | registry, r :: rest => do
    let first ← p.process cacheDir registry r
    let after ← p.processEach cacheDir first.2 rest
    return (first.1 :: after.1, after.2)

/-- A batch collects the records of its libraries; what is in the catalog so far makes no difference
to how they are processed. -/
theorem processAll_eq (p : Processor σ) (cacheDir : Path) (catalog : Catalog) (registry : Registry)
    (references : List Reference) :
    p.processAll cacheDir catalog registry references = do
      let done ← p.processEach cacheDir registry references
      return (catalog.insertAll done.1, done.2) := by
  induction references generalizing catalog registry with
  | nil => simp [processAll, processEach]
  | cons r rest ih => simp [processAll, processEach, ih]

theorem processEach_cons (p : Processor σ) (cacheDir : Path) (registry : Registry) (r : Reference)
    (rest : List Reference) (w : World σ) :
    let first := p.process cacheDir registry r w
    let after := p.processEach cacheDir first.value.2 rest first.world
    (p.processEach cacheDir registry (r :: rest) w).value =
        (first.value.1 :: after.value.1, after.value.2) ∧
      (p.processEach cacheDir registry (r :: rest) w).world = after.world := by
  simp [processEach]

/-- Libraries can be processed in two parts, the second from where the first one ended. -/
theorem processEach_append (p : Processor σ) (cacheDir : Path) (registry : Registry)
    (xs ys : List Reference) (w : World σ) :
    let first := p.processEach cacheDir registry xs w
    let second := p.processEach cacheDir first.value.2 ys first.world
    (p.processEach cacheDir registry (xs ++ ys) w).value =
        (first.value.1 ++ second.value.1, second.value.2) ∧
      (p.processEach cacheDir registry (xs ++ ys) w).world = second.world := by
  induction xs generalizing registry w with
  | nil => simp [processEach]
  | cons r rest ih =>
    obtain ⟨hvalue, hworld⟩ :=
      ih (p.process cacheDir registry r w).value.2 (p.process cacheDir registry r w).world
    simp [processEach, hvalue, hworld]

/-- There is a record for each reference, under its text. -/
theorem processEach_keys (p : Processor σ) (cacheDir : Path) (registry : Registry)
    (references : List Reference) (w : World σ) :
    (p.processEach cacheDir registry references w).value.1.map (·.libraryKey) =
      references.map (·.raw) := by
  induction references generalizing registry w with
  | nil => rfl
  | cons r rest ih =>
    rw [(p.processEach_cons cacheDir registry r rest w).1, List.map_cons, List.map_cons, ih,
      process_libraryKey]

/-- Whatever catalog the records of a batch are inserted into, each reference has one of them. -/
theorem exists_get?_processEach (p : Processor σ) (cacheDir : Path) (registry : Registry)
    {references : List Reference} (w : World σ) {r : Reference} (hr : r ∈ references) :
    let records := (p.processEach cacheDir registry references w).value.1
    ∃ a ∈ records, a.libraryKey = r.raw ∧
      ∀ c : Catalog, (c.insertAll records).get? r.raw = some a := by
  intro records
  have hmem : r.raw ∈ records.map (·.libraryKey) := by
    rw [p.processEach_keys cacheDir registry references w]
    exact List.mem_map_of_mem hr
  exact Catalog.exists_get?_insertAll hmem

/-- A registry without modules is one without modules after any number of libraries. -/
theorem processEach_registry_empty (p : Processor σ) (cacheDir : Path) (references : List Reference)
    (w : World σ) : (p.processEach cacheDir .empty references w).value.2 = .empty := by
  induction references generalizing w with
  | nil => rfl
  | cons r rest ih =>
    rw [(p.processEach_cons cacheDir .empty r rest w).1]
    simp only [process_registry, Registry.erase_empty]
    exact ih _

/-! ### Running a batch -/

variable {environment : HostEnvironment} {references : List Reference}

theorem runBatch_of_error {e : Failure} (h : (makeCacheDir cacheDir w).value = .error e) :
    (p.runBatch environment cacheDir registry references w).value = (.error e, registry) ∧
      (p.runBatch environment cacheDir registry references w).world =
        (makeCacheDir cacheDir w).world := by
  simp [runBatch, h]

/-- Once the cache directory is made, a batch reports the records of its libraries. -/
theorem runBatch_of_made (h : (makeCacheDir cacheDir w).value = .ok ()) :
    let each := p.processEach cacheDir registry references (makeCacheDir cacheDir w).world
    (p.runBatch environment cacheDir registry references w).value =
        (.ok ⟨Catalog.empty.insertAll each.value.1, environment⟩, each.value.2) ∧
      (p.runBatch environment cacheDir registry references w).world = each.world := by
  simp [runBatch, h, processAll_eq]

/-- A batch that starts without modules leaves none behind. -/
theorem runBatch_registry_empty (p : Processor σ) (environment : HostEnvironment) (cacheDir : Path)
    (references : List Reference) (w : World σ) :
    (p.runBatch environment cacheDir .empty references w).value.2 = .empty := by
  cases hmake : (makeCacheDir cacheDir w).value with
  | error e => rw [(runBatch_of_error hmake).1]
  | ok made =>
    rw [(runBatch_of_made hmake).1]
    exact p.processEach_registry_empty cacheDir references _

/-- The registry that such a batch leaves is as good as a new one. -/
theorem registry_of_left_or_new
    (h : registry ∈ [(p.runBatch environment cacheDir .empty references w).value.2, .empty]) :
    registry = .empty := by
  rcases List.mem_pair.mp h with hleft | hnew
  · rw [hleft, runBatch_registry_empty]
  · exact hnew

/-- Where the cache directory is there already, a batch is nothing but the processing of its
libraries. -/
theorem runBatch_of_settled (h : w.files.Settled cacheDir) :
    let each := p.processEach cacheDir registry references w
    (p.runBatch environment cacheDir registry references w).value =
        (.ok ⟨Catalog.empty.insertAll each.value.1, environment⟩, each.value.2) ∧
      (p.runBatch environment cacheDir registry references w).world = each.world := by
  obtain ⟨hmade, hsame⟩ := makeCacheDir_of_settled h
  simp [runBatch, hmade, hsame, processAll_eq]

end Processor

end KeywordDocs
