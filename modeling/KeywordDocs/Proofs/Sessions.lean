import KeywordDocs.Proofs.Calls

/-!
# Sessions

In a session libraries are processed one after another, against any cache directories, and in between
anybody may change the files. A session knows what can be seen of it from outside: the calls of the
generator and the changes of the files, in their order.

Of the registry a session takes the names of the libraries that it processed, whatever became of them,
and leaves all other names alone (`processing_releases_names`).
-/

namespace KeywordDocs

/-- Something that is done in a session. -/
inductive Deed where
  /-- A library is processed against a cache directory. -/
  | process (cacheDir : Path) (r : Reference)
  /-- The files are changed from outside, which takes until some time. -/
  | edit (change : FileSystem → FileSystem) (now : Time)

/-- The name of the library that is processed, if one is. -/
def Deed.name? : Deed → Option String
  | .process _ r => some r.logicalName
  | .edit .. => none

/-- Something that can be seen of a session from outside. -/
inductive Happening where
  | generated (c : Generation)
  | edited (before after : FileSystem)
  deriving DecidableEq

/-- A session: the registry, the world, and what was seen so far, the first thing first. -/
structure Session (σ : Type) where
  registry : Registry
  world : World σ
  past : List Happening

variable {σ : Type}

/-- The calls of the generator that processing a library makes. -/
def Processor.generationsOf (p : Processor σ) (cacheDir : Path) (registry : Registry) (r : Reference)
    (w : World σ) : List Generation :=
  (p.watched.process cacheDir registry r w.watched).world.host.generations

namespace Session

/-- A session in which nothing was done yet. -/
def fresh (w : World σ) : Session σ := ⟨.empty, w, []⟩

/-- The session once something was done. -/
def after (p : Processor σ) (s : Session σ) : Deed → Session σ
  | .process cacheDir r =>
    let o := p.process cacheDir s.registry r s.world
    ⟨o.value.2, o.world,
      s.past ++ (p.generationsOf cacheDir s.registry r s.world).map .generated⟩
  | .edit change now =>
    let files := change s.world.files
    ⟨s.registry, ⟨files, now, s.world.host⟩, s.past ++ [.edited s.world.files files]⟩

/-- The session once some things were done one after another. -/
def afterAll (p : Processor σ) (s : Session σ) (deeds : List Deed) : Session σ :=
  deeds.foldl (after p) s

theorem afterAll_concat (p : Processor σ) (s : Session σ) (deeds : List Deed) (deed : Deed) :
    s.afterAll p (deeds ++ [deed]) = (s.afterAll p deeds).after p deed := by
  simp [afterAll]

end Session

/-! ### Names that are released -/

namespace Registry

/-- Takes back the registrations of names. -/
def eraseAll (registry : Registry) (names : List String) : Registry := names.foldl erase registry

theorem get?_eraseAll (registry : Registry) (names : List String) (name : String) :
    (registry.eraseAll names).get? name = if name ∈ names then none else registry.get? name := by
  unfold eraseAll
  induction names generalizing registry with
  | nil => simp
  | cons first rest ih =>
    rw [List.foldl_cons, ih, get?_erase]
    by_cases hfirst : name = first
    · simp [hfirst]
    · simp [hfirst]

theorem eraseAll_empty (names : List String) : empty.eraseAll names = empty := by
  unfold eraseAll
  induction names with
  | nil => rfl
  | cons first rest ih => rw [List.foldl_cons, erase_empty, ih]

end Registry

theorem Session.registry_afterAll (p : Processor σ) (s : Session σ) (deeds : List Deed) :
    (s.afterAll p deeds).registry = s.registry.eraseAll (deeds.filterMap Deed.name?) := by
  unfold afterAll
  induction deeds generalizing s with
  | nil => rfl
  | cons deed rest ih =>
    rw [List.foldl_cons, ih]
    cases deed with
    | process cacheDir r =>
      simp [after, Processor.process_registry, Deed.name?, Registry.eraseAll]
    | edit change now => simp [after, List.filterMap_cons, Deed.name?]

theorem Processor.processEach_registry (p : Processor σ) (cacheDir : Path) (registry : Registry)
    (references : List Reference) (w : World σ) :
    (p.processEach cacheDir registry references w).value.2 =
      registry.eraseAll (references.map (·.logicalName)) := by
  induction references generalizing registry w with
  | nil => rfl
  | cons r rest ih =>
    rw [(p.processEach_cons cacheDir registry r rest w).1, ih, process_registry]
    rfl

/-- **Processing releases the names of its libraries and no others.** However the libraries of a session
fare, the registry is afterwards what it was before, without the modules under the names of those
libraries. So is that of a batch; one that has no report leaves the registry alone. A registry without
modules is one without modules at any time of a session and after any batch. -/
theorem processing_releases_names (p : Processor σ) (s : Session σ) (deeds : List Deed) :
    (∀ name, (s.afterAll p deeds).registry.get? name =
      if name ∈ deeds.filterMap Deed.name? then none else s.registry.get? name) ∧
    (∀ w, ((Session.fresh w).afterAll p deeds).registry = .empty) ∧
    ∀ environment cacheDir registry references w,
      let o := p.runBatch environment cacheDir registry references w
      (∀ e, o.value.1 = .error e → o.value.2 = registry) ∧
      (∀ report, o.value.1 = .ok report → ∀ name, o.value.2.get? name =
        if name ∈ references.map (·.logicalName) then none else registry.get? name) ∧
      (registry = .empty → o.value.2 = .empty) := by
  refine ⟨fun name => ?_, fun w => ?_, fun environment cacheDir registry references w => ?_⟩
  · rw [s.registry_afterAll, Registry.get?_eraseAll]
  · rw [Session.registry_afterAll]
    exact Registry.eraseAll_empty _
  · intro o
    cases hmake : (makeCacheDir cacheDir w).value with
    | error e =>
      obtain ⟨hvalue, _⟩ : o.value = _ ∧ _ := Processor.runBatch_of_error hmake
      rw [hvalue]
      refine ⟨fun _ _ => rfl, fun report h => ?_, fun h => h⟩
      cases h
    | ok made =>
      obtain ⟨hvalue, _⟩ : o.value = _ ∧ _ := Processor.runBatch_of_made hmake
      rw [hvalue]
      refine ⟨fun e h => ?_, fun report _ name => ?_, fun h => ?_⟩
      · cases h
      · rw [Processor.processEach_registry, Registry.get?_eraseAll]
      · rw [Processor.processEach_registry, h, Registry.eraseAll_empty]

end KeywordDocs
