import KeywordDocs.Proofs.Histories
import KeywordDocs.Proofs.Reuse
import KeywordDocs.Proofs.Sessions

/-!
# When libdocs are generated again

In a session the generator is called for a library exactly when there is no libdoc that can be reused
(`attends_process`). A libdoc that was generated can be reused until an edit changes what can be
seen of it or of the source of its library; other libraries do not take that away, be it that they
share the libdoc (`Reusable.afterGeneration`). So between two calls of the generator for a library lies
such an edit (`regeneration_needs_edit`).
-/

namespace KeywordDocs

namespace FileSystem

/-- What can be seen of a path from outside: whether it leads to anything, and when that was changed. -/
def stamp (fs : FileSystem) (p : Path) : Bool × Option Time := (fs.pathExists p, fs.modified? p)

/-- There is a libdoc under the key, and the source was not changed after it. -/
def Reusable (fs : FileSystem) (cacheDir : Path) (key : String) (source : Option Path) : Prop :=
  fs.pathExists (artifactPath cacheDir key) = true ∧
    fs.changed source ≤ fs.changed (some (artifactPath cacheDir key))

instance (fs : FileSystem) (cacheDir : Path) (key : String) (source : Option Path) :
    Decidable (fs.Reusable cacheDir key source) :=
  inferInstanceAs (Decidable (_ ∧ _))

variable {fs fs' : FileSystem} {p : Path}

theorem pathExists_of_stamp (h : fs'.stamp p = fs.stamp p) : fs'.pathExists p = fs.pathExists p :=
  congrArg Prod.fst h

theorem changed_of_stamp (h : fs'.stamp p = fs.stamp p) :
    fs'.changed (some p) = fs.changed (some p) := by
  have hmodified : fs'.modified? p = fs.modified? p := congrArg Prod.snd h
  simp [changed, hmodified]

/-- The time of a source is the same where the same is seen of it. -/
theorem changed_source_of_stamp {source : Option Path}
    (h : ∀ p, source = some p → fs'.stamp p = fs.stamp p) : fs'.changed source = fs.changed source := by
  cases source with
  | none => rfl
  | some p => exact changed_of_stamp (h p rfl)

end FileSystem

theorem CacheCheck.exists_hit_iff {fs : FileSystem} {cacheDir : Path} {key : String}
    {source : Option Path} :
    (∃ path, look fs cacheDir key source = .hit path) ↔ fs.Reusable cacheDir key source := by
  unfold look FileSystem.Reusable
  by_cases hexists : fs.pathExists (artifactPath cacheDir key) = true
  · by_cases hstale : fs.changed (some (artifactPath cacheDir key)) < fs.changed source
    · simp [hexists, hstale]
    · simp [hexists, hstale, Int.not_lt.mp hstale]
  · simp [hexists]

variable {σ : Type}

/-! ### When the generator is called -/

namespace Processor

variable {p : Processor σ}

/-- With no module registered a reference is not resolved when its loader loads nothing. -/
theorem resolve_empty_eq_error {loader : ModuleLoader σ} {r : Reference} {w : World σ}
    {e : ResolveError} (h : (loader.resolve .empty r w).value.1 = .error e) :
    ∃ e', ((loader.load r).run w).value = .error e' ∧ e = ⟨r.logicalName, e'⟩ := by
  cases hload : ((loader.load r).run w).value with
  | ok l =>
    rw [resolve_empty_eq_ok_iff.mpr ⟨l, hload, rfl⟩] at h
    cases h
  | error e' =>
    have hnone : ModuleLoader.registered? .empty r = none := by
      rw [ModuleLoader.registered?]
      cases r.kind <;> rfl
    rw [(loader.resolve_of_error hnone hload).1] at h
    cases h
    exact ⟨e', rfl, rfl⟩

/-- The record of a library for which the generator was called. -/
def answered (r : Reference) (m : LoadedModule) : Except Failure Path → LibraryRecord
  | .ok path => conclude r (.ok ⟨r.logicalName, path,
      reportedSource r ⟨r.logicalName, m.importName, m.source, r⟩, .miss⟩)
  | .error e => conclude r (.error (.ofGenerate e))

/-- How a library is processed with no module registered: its record, the calls of the generator and
the files that are left. There is one call if the library is found and its libdoc can not be reused,
and else none. -/
inductive Attends (loader : ModuleLoader σ) (cacheDir : Path) (r : Reference) (before : FileSystem) :
    LibraryRecord → List Generation → FileSystem → Prop
  | unresolved {e : LoadError} (missing : ∃ w, ((loader.load r).run w).value = .error e) :
      Attends loader cacheDir r before (conclude r (.error (.ofResolve ⟨r.logicalName, e⟩))) [] before
  | reuses {m : LoadedModule} (found : loader.Finds r m)
      (reusable : before.Reusable cacheDir r.cacheKey m.source) :
      Attends loader cacheDir r before (obtained cacheDir r m .hit) [] before
  | generates {m : LoadedModule} {c : Generation} (found : loader.Finds r m)
      (due : ¬ before.Reusable cacheDir r.cacheKey m.source) (reference : c.reference = r)
      (cacheKey : c.cacheKey = r.cacheKey) (directory : c.cacheDir = cacheDir)
      (files : c.before = before) :
      Attends loader cacheDir r before (answered r m c.reply) [c] c.after

theorem Step.attends (fixed : p.loader.Fixed) {cacheDir : Path} {r : Reference}
    {v after : World (Watched σ)} {record : LibraryRecord}
    (h : p.watched.Step cacheDir .empty r v record after) :
    ∃ calls, after.host.generations = v.host.generations ++ calls ∧
      Attends p.loader cacheDir r v.files record calls after.files := by
  have hfiles : (p.watched.loader.resolve .empty r v).world.files = v.files :=
    fixed.watched.files_resolve .empty r v
  have hsilent :
      (p.watched.loader.resolve .empty r v).world.host.generations = v.host.generations :=
    (p.loader.watched_keeps_generations (· = v.host.generations)).resolve .empty r v rfl
  -- A call of the generator stands behind a module that was found and a libdoc that can not be reused.
  have hcalled : ∀ m, (p.watched.loader.resolve .empty r v).value.1 = .ok m →
      (∀ path, CacheCheck.look (p.watched.loader.resolve .empty r v).world.files cacheDir
        r.cacheKey m.source ≠ .hit path) →
      let o := (p.watched.generator r r.cacheKey cacheDir).run
        (p.watched.loader.resolve .empty r v).world
      ∃ l calls, m = ⟨r.logicalName, l.importName, l.source, r⟩ ∧
        o.world.host.generations = v.host.generations ++ calls ∧
        Attends p.loader cacheDir r v.files (answered r l o.value) calls o.world.files := by
    intro m hresolve hmiss o
    obtain ⟨l, hl, rfl⟩ := resolve_empty_eq_ok_iff.mp hresolve
    rw [hfiles] at hmiss
    have due : ¬ v.files.Reusable cacheDir r.cacheKey l.source := by
      intro hreuse
      obtain ⟨path, hhit⟩ := CacheCheck.exists_hit_iff.mpr hreuse
      exact hmiss path hhit
    refine ⟨l, [⟨r, r.cacheKey, cacheDir, v.files, o.value, o.world.files⟩], rfl, ?_, ?_⟩
    · rw [p.generations_watched, hsilent, hfiles]
    · exact Attends.generates (c := ⟨r, r.cacheKey, cacheDir, v.files, o.value, o.world.files⟩)
        (ModuleLoader.finds_of_watched ⟨_, hl⟩) due rfl rfl rfl rfl
  cases h with
  | unresolved resolve =>
    obtain ⟨e, he, rfl⟩ := resolve_empty_eq_error resolve
    have hload := (p.loader.watched_matches.load r v v.unwatched rfl).1
    rw [hsilent, hfiles]
    exact ⟨[], by simp, .unresolved ⟨_, hload.symm.trans he⟩⟩
  | reused resolve check =>
    obtain ⟨l, hl, rfl⟩ := resolve_empty_eq_ok_iff.mp resolve
    rw [hfiles] at check
    obtain rfl := (CacheCheck.look_eq_hit_iff.mp check).1
    rw [hsilent, hfiles]
    exact ⟨[], by simp, .reuses (ModuleLoader.finds_of_watched ⟨_, hl⟩)
      (CacheCheck.exists_hit_iff.mp ⟨_, check⟩)⟩
  | failed resolve check generate =>
    obtain ⟨l, calls, _, hcalls, attends⟩ := hcalled _ resolve check
    rw [generate] at attends
    exact ⟨calls, hcalls, attends⟩
  | generated resolve check generate =>
    obtain ⟨l, calls, rfl, hcalls, attends⟩ := hcalled _ resolve check
    rw [generate] at attends
    exact ⟨calls, hcalls, attends⟩

theorem attends_process (fixed : p.loader.Fixed) (cacheDir : Path) (r : Reference) (w : World σ) :
    ∃ record, Attends p.loader cacheDir r w.files record (p.generationsOf cacheDir .empty r w)
      (p.process cacheDir .empty r w).world.files := by
  have hstep := p.watched.process_step cacheDir .empty r w.watched
  have hworld := ((p.watched_matches cacheDir).process .empty r w.watched w rfl).2
  rw [World.Watches] at hworld
  rw [← hworld, World.files_unwatched]
  obtain ⟨calls, hcalls, attends⟩ := hstep.attends fixed
  have hcalls' : p.generationsOf cacheDir .empty r w = calls := hcalls
  rw [hcalls']
  exact ⟨_, attends⟩

end Processor

/-! ### What keeps a libdoc reusable -/

/-- The path is that of the libdoc of a library, or of its source. -/
def ModuleLoader.Concerns (loader : ModuleLoader σ) (cacheDir : Path) (r : Reference) (path : Path) :
    Prop :=
  path = artifactPath cacheDir r.cacheKey ∨ ∃ m, loader.Finds r m ∧ m.source = some path

/-- A call of the generator writes the libdoc, at a time that is not before that of the source, and
changes nothing else that concerns the libraries of a session. -/
structure Generation.Confined (loader : ModuleLoader σ) (deeds : List Deed) (c : Generation) :
    Prop where
  written : c.after.pathExists (artifactPath c.cacheDir c.cacheKey) = true
  recent : ∀ m, loader.Finds c.reference m →
    c.before.changed m.source ≤ c.after.changed (some (artifactPath c.cacheDir c.cacheKey))
  only : ∀ cacheDir r, Deed.process cacheDir r ∈ deeds → ∀ path, loader.Concerns cacheDir r path →
    path ≠ artifactPath c.cacheDir c.cacheKey → c.after.stamp path = c.before.stamp path

/-- No library of a session has the libdoc of another one for its source. -/
def ModuleLoader.Apart (loader : ModuleLoader σ) (deeds : List Deed) : Prop :=
  ∀ cacheDir r cacheDir' r', Deed.process cacheDir r ∈ deeds → Deed.process cacheDir' r' ∈ deeds →
    (cacheDir, r) ≠ (cacheDir', r') → ∀ m, loader.Finds r m →
      m.source ≠ some (artifactPath cacheDir' r'.cacheKey)

namespace FileSystem

variable {loader : ModuleLoader σ} {deeds : List Deed} {cacheDir : Path} {r : Reference}
  {m : LoadedModule} {fs fs' : FileSystem} {c : Generation}

/-- A libdoc can be reused as long as nothing is changed that concerns its library. -/
theorem Reusable.ofUntouched (hm : loader.Finds r m)
    (untouched : ∀ path, loader.Concerns cacheDir r path → fs'.stamp path = fs.stamp path)
    (h : fs.Reusable cacheDir r.cacheKey m.source) : fs'.Reusable cacheDir r.cacheKey m.source := by
  have hlibdoc := untouched _ (.inl rfl)
  have hsource := changed_source_of_stamp fun p hp => untouched p (.inr ⟨m, hm, hp⟩)
  unfold Reusable
  rw [pathExists_of_stamp hlibdoc, changed_of_stamp hlibdoc, hsource]
  exact h

/-- A libdoc that was generated can be reused. -/
theorem Reusable.ofGenerated (confined : c.Confined loader deeds)
    (hkey : c.cacheKey = c.reference.cacheKey) (hdeed : Deed.process c.cacheDir c.reference ∈ deeds)
    (hm : loader.Finds c.reference m) :
    c.after.Reusable c.cacheDir c.reference.cacheKey m.source := by
  have hrecent := confined.recent m hm
  have hwritten := confined.written
  rw [hkey] at hrecent hwritten
  refine ⟨hwritten, ?_⟩
  -- The source may be the libdoc itself; it is then as new as that.
  by_cases hself : m.source = some (artifactPath c.cacheDir c.reference.cacheKey)
  · rw [hself]
  · have hsource : c.after.changed m.source = c.before.changed m.source := by
      refine changed_source_of_stamp fun p hp => ?_
      refine confined.only _ _ hdeed p (.inr ⟨m, hm, hp⟩) ?_
      rintro rfl
      rw [hkey] at hp
      exact hself hp
    rw [hsource]
    exact hrecent

/-- A libdoc that can be reused can be reused after the generator was called for another library. Should
the other library share the libdoc, then that was too old for it and is newer now. -/
theorem Reusable.afterGeneration (confined : c.Confined loader deeds) (apart : loader.Apart deeds)
    (hkey : c.cacheKey = c.reference.cacheKey) (hdeed : Deed.process c.cacheDir c.reference ∈ deeds)
    {m' : LoadedModule} (hm' : loader.Finds c.reference m')
    (due : ¬ c.before.Reusable c.cacheDir c.reference.cacheKey m'.source)
    (hother : Deed.process cacheDir r ∈ deeds) (hne : (cacheDir, r) ≠ (c.cacheDir, c.reference))
    (hm : loader.Finds r m) (h : c.before.Reusable cacheDir r.cacheKey m.source) :
    c.after.Reusable cacheDir r.cacheKey m.source := by
  have hsource : c.after.changed m.source = c.before.changed m.source := by
    refine changed_source_of_stamp fun p hp => ?_
    refine confined.only _ _ hother p (.inr ⟨m, hm, hp⟩) ?_
    rintro rfl
    rw [hkey] at hp
    exact apart _ _ _ _ hother hdeed hne m hm hp
  by_cases hshared : artifactPath cacheDir r.cacheKey = artifactPath c.cacheDir c.cacheKey
  · obtain ⟨hexists, hfresh⟩ := h
    have hrecent := confined.recent m' hm'
    unfold Reusable at due ⊢
    rw [hshared] at hexists hfresh ⊢
    rw [← hkey] at due
    have hstale : c.before.changed (some (artifactPath c.cacheDir c.cacheKey)) <
        c.before.changed m'.source :=
      Int.not_le.mp fun hle => due ⟨hexists, hle⟩
    rw [hsource]
    exact ⟨confined.written, Int.le_trans hfresh (Int.le_trans (Int.le_of_lt hstale) hrecent)⟩
  · have hlibdoc := confined.only _ _ hother _ (.inl rfl) hshared
    unfold Reusable
    rw [pathExists_of_stamp hlibdoc, changed_of_stamp hlibdoc, hsource]
    exact h

end FileSystem

/-! ### Sessions -/

namespace Happening

/-- The generator was called for the library. -/
def Generates (cacheDir : Path) (r : Reference) : Happening → Prop
  | .generated c => c.cacheDir = cacheDir ∧ c.reference = r
  | .edited .. => False

/-- No edit changed what can be seen of the libdoc of the library or of its source. -/
def Spares (loader : ModuleLoader σ) (cacheDir : Path) (r : Reference) : Happening → Prop
  | .generated _ => True
  | .edited before after =>
    ∀ path, loader.Concerns cacheDir r path → after.stamp path = before.stamp path

end Happening

namespace Session

variable {p : Processor σ} {deeds : List Deed}

/-- What a session keeps to. A libdoc that was generated and spared since can be reused; and no call of
the generator was made for such a libdoc. -/
structure Sound (p : Processor σ) (deeds : List Deed) (s : Session σ) : Prop where
  registry : s.registry = .empty
  reusable : ∀ cacheDir r, Deed.process cacheDir r ∈ deeds → ∀ m, p.loader.Finds r m →
    Since (Happening.Generates cacheDir r) (Happening.Spares p.loader cacheDir r) s.past →
      s.world.files.Reusable cacheDir r.cacheKey m.source
  justified : ∀ before c after, s.past = before ++ .generated c :: after →
    ¬ Since (Happening.Generates c.cacheDir c.reference)
      (Happening.Spares p.loader c.cacheDir c.reference) before

theorem Sound.fresh (w : World σ) : Sound p deeds (fresh w) where
  registry := rfl
  reusable _ _ _ _ _ h := absurd h Since.not_nil
  justified before c after h := by simp [Session.fresh] at h

theorem Sound.edit {s : Session σ} (h : s.Sound p deeds) (change : FileSystem → FileSystem)
    (now : Time) : (s.after p (.edit change now)).Sound p deeds where
  registry := h.registry
  reusable cacheDir r hdeed m hm hsince := by
    rcases Since.concat_iff.mp hsince with hfalse | ⟨hspares, hsince⟩
    · exact hfalse.elim
    · exact .ofUntouched hm hspares (h.reusable cacheDir r hdeed m hm hsince)
  justified before c after heq := by
    rcases concat_eq_append_cons_iff.mp heq with ⟨_, hlast, _⟩ | ⟨rest, hpast, _⟩
    · cases hlast
    · exact h.justified before c rest hpast

theorem Sound.process (fixed : p.loader.Fixed) (apart : p.loader.Apart deeds) {s : Session σ}
    (h : s.Sound p deeds) {cacheDir : Path} {r : Reference} (hdeed : Deed.process cacheDir r ∈ deeds)
    (confined : ∀ c, .generated c ∈ (s.after p (.process cacheDir r)).past →
      c.Confined p.loader deeds) :
    (s.after p (.process cacheDir r)).Sound p deeds := by
  obtain ⟨registry, world, past⟩ := s
  obtain rfl : registry = .empty := h.registry
  have hregistry : (p.process cacheDir .empty r world).value.2 = .empty := by
    rw [Processor.process_registry, Registry.erase_empty]
  obtain ⟨record, hattends⟩ := Processor.attends_process fixed cacheDir r world
  simp only [after] at confined ⊢
  generalize p.generationsOf cacheDir .empty r world = calls at hattends confined ⊢
  generalize p.process cacheDir .empty r world = o at hattends confined hregistry ⊢
  obtain ⟨⟨_, left⟩, _, ⟨files, _⟩⟩ := o
  obtain rfl : left = .empty := hregistry
  change Processor.Attends p.loader cacheDir r world.files record calls files at hattends
  cases hattends with
  | unresolved =>
    rw [List.map_nil, List.append_nil]
    exact ⟨rfl, h.reusable, h.justified⟩
  | reuses =>
    rw [List.map_nil, List.append_nil]
    exact ⟨rfl, h.reusable, h.justified⟩
  | @generates m c found due reference cacheKey directory before =>
    subst reference directory
    have hc : c.Confined p.loader deeds := confined c (by simp)
    refine ⟨rfl, fun cacheDir r hdeed' m' hm' hsince => ?_, fun early c' late heq => ?_⟩
    · by_cases hsame : (cacheDir, r) = (c.cacheDir, c.reference)
      · obtain ⟨rfl, rfl⟩ := Prod.mk.inj hsame
        exact .ofGenerated hc cacheKey hdeed hm'
      · rcases Since.concat_iff.mp hsince with ⟨rfl, rfl⟩ | ⟨_, hsince⟩
        · exact absurd rfl hsame
        · have hreusable := h.reusable cacheDir r hdeed' m' hm' hsince
          rw [← before] at due hreusable
          exact .afterGeneration hc apart cacheKey hdeed found due hdeed' hsame hm' hreusable
    · rcases concat_eq_append_cons_iff.mp heq with ⟨rfl, hlast, _⟩ | ⟨earlier, hpast, _⟩
      · cases hlast
        exact fun hsince => due (h.reusable c.cacheDir c.reference hdeed m found hsince)
      · exact h.justified early c' earlier hpast

/-- Whatever is done in a session, it keeps to what it has to keep to. -/
theorem sound_afterAll (fixed : p.loader.Fixed) (apart : p.loader.Apart deeds) {w : World σ}
    {done : List Deed} (hdone : ∀ deed ∈ done, deed ∈ deeds)
    (confined : ∀ c, .generated c ∈ ((fresh w).afterAll p done).past → c.Confined p.loader deeds) :
    ((fresh w).afterAll p done).Sound p deeds := by
  induction done using List.reverseRecOn with
  | nil => exact .fresh w
  | append_singleton done deed ih =>
    rw [afterAll_concat] at confined ⊢
    have hbefore := ih (fun d hd => hdone d (by simp [hd])) fun c hc => confined c (by
      cases deed <;> simp [after, hc])
    cases deed with
    | edit change now => exact hbefore.edit change now
    | process cacheDir r => exact hbefore.process fixed apart (hdone _ (by simp)) confined

end Session

/-- **No libdoc is generated again without a change.** Let a session mix the processing of libraries with
edits of the files of any kind. Let the answers of the loader be fixed, let the calls of the generator
write their libdocs, not older than the sources, and nothing else that concerns the libraries, and let
no library have the libdoc of another one for its source.

* Between two calls of the generator for a library lies an edit that changed the existence or the time
  of the library's source or of its libdoc.
* Processing a library that is found and has no libdoc, or has one that is older than its source, calls
  the generator exactly once. -/
theorem regeneration_needs_edit {p : Processor σ} {deeds : List Deed} {w : World σ}
    (fixed : p.loader.Fixed) (apart : p.loader.Apart deeds) :
    let session := (Session.fresh w).afterAll p
    (∀ c, .generated c ∈ (session deeds).past → c.Confined p.loader deeds) →
    (∀ early c between c' late,
      (session deeds).past = early ++ .generated c :: between ++ .generated c' :: late →
      c'.cacheDir = c.cacheDir → c'.reference = c.reference →
      ∃ before after, .edited before after ∈ between ∧
        ∃ path, p.loader.Concerns c.cacheDir c.reference path ∧
          after.stamp path ≠ before.stamp path) ∧
    ∀ done cacheDir r rest, deeds = done ++ .process cacheDir r :: rest →
      ∀ m, p.loader.Finds r m →
      let now := session done
      let libdoc := artifactPath cacheDir r.cacheKey
      (now.world.files.pathExists libdoc = false ∨
        now.world.files.changed (some libdoc) < now.world.files.changed m.source) →
      ∃ c, p.generationsOf cacheDir now.registry r now.world = [c] ∧
        c.reference = r ∧ c.cacheKey = r.cacheKey ∧ c.cacheDir = cacheDir := by
  intro session confined
  have sound := Session.sound_afterAll fixed apart (fun deed hdeed => hdeed) confined
  constructor
  · intro early c between c' late hpast hdir href
    have hnot := sound.justified (early ++ .generated c :: between) c' late hpast
    rw [hdir, href] at hnot
    by_contra hnone
    push Not at hnone
    refine hnot ⟨early, .generated c, between, rfl, ⟨rfl, rfl⟩, fun x hx => ?_⟩
    cases x with
    | generated _ => trivial
    | edited before after => exact hnone before after hx
  · intro done cacheDir r rest _ m hm now libdoc hold
    have hregistry : now.registry = .empty := by
      rw [Session.registry_afterAll]
      exact Registry.eraseAll_empty _
    have due : ¬ now.world.files.Reusable cacheDir r.cacheKey m.source := by
      rintro ⟨hexists, hfresh⟩
      rcases hold with hmissing | hstale
      · rw [hmissing] at hexists
        cases hexists
      · exact absurd hfresh (Int.not_le.mpr hstale)
    rw [hregistry]
    obtain ⟨record, hattends⟩ := Processor.attends_process fixed cacheDir r now.world
    generalize p.generationsOf cacheDir .empty r now.world = calls at hattends ⊢
    generalize (p.process cacheDir .empty r now.world).world.files = files at hattends
    cases hattends with
    | generates _ _ reference cacheKey directory _ => exact ⟨_, rfl, reference, cacheKey, directory⟩
    | unresolved missing =>
      obtain ⟨v, hv⟩ := missing
      rw [fixed.load_of_finds hm v] at hv
      cases hv
    | reuses found reusable =>
      obtain rfl := fixed.finds_unique found hm
      exact absurd reusable due

/-! ### A sample -/

namespace Sample

/-- The library `foo`, referred to by its file. -/
def file : Reference := ⟨"/lib/foo.py"⟩

/-- The call of the generator for `foo`. -/
def generation : Generation where
  reference := ⟨"foo"⟩
  cacheKey := "foo"
  cacheDir := cacheDir
  before := made
  reply := .ok (artifactPath cacheDir "foo")
  after := made.add 150 [Utf8.encode "cache"] (Utf8.encode "foo.xml")
    (.file (Utf8.encode "foo#1") FileSystem.plainMode 200)

/-- The call of the generator for the file of `foo`, after that for `foo`. -/
def generationOfFile : Generation where
  reference := file
  cacheKey := "foo-32b94cc202acd019"
  cacheDir := cacheDir
  before := generation.after
  reply := .ok (artifactPath cacheDir "foo-32b94cc202acd019")
  after := generation.after.add 150 [Utf8.encode "cache"] (Utf8.encode "foo-32b94cc202acd019.xml")
    (.file (Utf8.encode "/lib/foo.py#2") FileSystem.plainMode 200)

/-- Gives the libdoc of `foo` a time before that of its source. -/
def spoil (fs : FileSystem) : FileSystem := fs.touch (artifactPath cacheDir "foo") 50

/-- The call of the generator for `foo`, once its libdoc is too old. -/
def regeneration : Generation where
  reference := ⟨"foo"⟩
  cacheKey := "foo"
  cacheDir := cacheDir
  before := spoil generationOfFile.after
  reply := .ok (artifactPath cacheDir "foo")
  after := (spoil generationOfFile.after).put [Utf8.encode "cache", Utf8.encode "foo.xml"]
    (.file (Utf8.encode "foo#3") FileSystem.plainMode 200)

/-- A session over `foo` and its file, up to the second call of the generator for `foo`. -/
def done : List Deed :=
  [.process cacheDir ⟨"foo"⟩, .process cacheDir file, .process cacheDir ⟨"foo"⟩, .edit spoil 150,
    .process cacheDir file]

def deeds : List Deed := done ++ [.process cacheDir ⟨"foo"⟩]

/-- The session after some deeds. -/
abbrev session := (Session.fresh ⟨made, 150, .fresh⟩).afterAll processor

theorem past_deeds : (session deeds).past =
    [.generated generation, .generated generationOfFile,
      .edited generationOfFile.after (spoil generationOfFile.after), .generated regeneration] := by
  decide +kernel

theorem process_mem_deeds {dir : Path} {r : Reference} (h : Deed.process dir r ∈ deeds) :
    dir = cacheDir ∧ r ∈ [⟨"foo"⟩, file] := by
  simp only [deeds, done, List.cons_append, List.nil_append, List.mem_cons, Deed.process.injEq,
    reduceCtorEq, List.not_mem_nil, or_false, false_or] at h ⊢
  tauto

theorem finds_of_mem {r : Reference} (hr : r ∈ [⟨"foo"⟩, file]) {m : LoadedModule}
    (h : processor.loader.Finds r m) : m = ⟨"foo", some (.ofString "/lib/foo.py")⟩ := by
  have hload := modules.loader_fixed.load_of_finds h world
  have hboth : ∀ r ∈ [⟨"foo"⟩, file], ((modules.loader.load r).run world).value =
      .ok ⟨"foo", some (.ofString "/lib/foo.py")⟩ := by decide +kernel
  rw [hboth r hr] at hload
  cases hload
  rfl

/-- A call of the generator is confined when that can be seen at its libdoc, the source of `foo` and
the libdocs of the session. -/
theorem confined_of_seen {c : Generation} (href : c.reference ∈ [⟨"foo"⟩, file])
    (written : c.after.pathExists (artifactPath c.cacheDir c.cacheKey) = true)
    (recent : c.before.changed (some (.ofString "/lib/foo.py")) ≤
      c.after.changed (some (artifactPath c.cacheDir c.cacheKey)))
    (only : ∀ path ∈ Path.ofString "/lib/foo.py" ::
        [⟨"foo"⟩, file].map fun r : Reference => artifactPath cacheDir r.cacheKey,
      path ≠ artifactPath c.cacheDir c.cacheKey → c.after.stamp path = c.before.stamp path) :
    c.Confined processor.loader deeds where
  written := written
  recent m hm := by
    obtain rfl := finds_of_mem href hm
    exact recent
  only dir r hdeed path hpath hne := by
    obtain ⟨rfl, hr⟩ := process_mem_deeds hdeed
    refine only path ?_ hne
    rcases hpath with rfl | ⟨m, hm, hsource⟩
    · exact List.mem_cons_of_mem _ (List.mem_map_of_mem hr)
    · obtain rfl := finds_of_mem hr hm
      cases hsource
      exact List.mem_cons_self

theorem confined_deeds :
    ∀ c, .generated c ∈ (session deeds).past → c.Confined processor.loader deeds := by
  intro c hc
  rw [past_deeds] at hc
  have hcalls : c ∈ [generation, generationOfFile, regeneration] := by simpa using hc
  have hseen : ∀ c ∈ [generation, generationOfFile, regeneration],
      c.reference ∈ [⟨"foo"⟩, file] ∧
      c.after.pathExists (artifactPath c.cacheDir c.cacheKey) = true ∧
      c.before.changed (some (.ofString "/lib/foo.py")) ≤
        c.after.changed (some (artifactPath c.cacheDir c.cacheKey)) ∧
      ∀ path ∈ Path.ofString "/lib/foo.py" ::
          [⟨"foo"⟩, file].map fun r : Reference => artifactPath cacheDir r.cacheKey,
        path ≠ artifactPath c.cacheDir c.cacheKey → c.after.stamp path = c.before.stamp path := by
    decide +kernel
  obtain ⟨href, written, recent, only⟩ := hseen c hcalls
  exact confined_of_seen href written recent only

theorem apart_deeds : processor.loader.Apart deeds := by
  intro dir r dir' r' hdeed hdeed' _ m hm
  obtain ⟨_, hr⟩ := process_mem_deeds hdeed
  obtain ⟨rfl, hr'⟩ := process_mem_deeds hdeed'
  obtain rfl := finds_of_mem hr hm
  have hsource : ∀ r ∈ [⟨"foo"⟩, file],
      some (Path.ofString "/lib/foo.py") ≠ some (artifactPath cacheDir r.cacheKey) := by
    decide +kernel
  exact hsource r' hr'

end Sample

/-- A session over two libraries, in which the libdoc of the first is made older than its source. -/
theorem regeneration_needs_edit_sample :
    (∃ before after,
      .edited before after ∈ [Happening.generated Sample.generationOfFile,
        .edited Sample.generationOfFile.after (Sample.spoil Sample.generationOfFile.after)] ∧
      ∃ path, Sample.processor.loader.Concerns Sample.cacheDir ⟨"foo"⟩ path ∧
        after.stamp path ≠ before.stamp path) ∧
    let now := Sample.session Sample.done
    ∃ c, Sample.processor.generationsOf Sample.cacheDir now.registry ⟨"foo"⟩ now.world = [c] ∧
      c.reference = ⟨"foo"⟩ ∧ c.cacheKey = "foo" ∧ c.cacheDir = Sample.cacheDir := by
  obtain ⟨changed, called⟩ := regeneration_needs_edit Sample.modules.loader_fixed Sample.apart_deeds
    Sample.confined_deeds
  constructor
  · exact changed [] Sample.generation _ Sample.regeneration [] Sample.past_deeds rfl rfl
  · refine called Sample.done Sample.cacheDir ⟨"foo"⟩ [] rfl ⟨"foo", some (.ofString "/lib/foo.py")⟩
      ⟨Sample.world, by decide +kernel⟩ (.inr ?_)
    decide +kernel

end KeywordDocs
