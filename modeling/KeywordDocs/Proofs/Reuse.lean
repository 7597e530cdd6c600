import KeywordDocs.Proofs.Freshness
import KeywordDocs.Proofs.Tables

/-!
# Reusing what a batch obtained

What a library is told to have obtained it has at the end of the batch: the libdoc is at its path, and
is not older than the source of the library. No later call of the generator takes that away, be it
for a library that shares the libdoc (`Lasting`, `processEach_lasting`). So a second batch over
libraries that succeeded finds all of their libdocs and calls the generator for none
(`second_batch_reuses`).
-/

namespace KeywordDocs

variable {σ : Type}

/-- The loader loads this module for the reference. -/
def ModuleLoader.Finds (loader : ModuleLoader σ) (r : Reference) (m : LoadedModule) : Prop :=
  ∃ w, ((loader.load r).run w).value = .ok m

theorem ModuleLoader.Fixed.load_of_finds {loader : ModuleLoader σ} (fixed : loader.Fixed)
    {r : Reference} {m : LoadedModule} (h : loader.Finds r m) (w : World σ) :
    ((loader.load r).run w).value = .ok m := by
  obtain ⟨v, hv⟩ := h
  rw [fixed.load r w v, hv]

theorem ModuleLoader.Fixed.finds_unique {loader : ModuleLoader σ} (fixed : loader.Fixed)
    {r : Reference} {m m' : LoadedModule} (h : loader.Finds r m) (h' : loader.Finds r m') :
    m = m' := by
  obtain ⟨v, hv⟩ := h
  rw [fixed.load_of_finds h' v] at hv
  cases hv
  rfl

theorem ModuleLoader.finds_of_watched {loader : ModuleLoader σ} {r : Reference} {m : LoadedModule}
    (h : loader.watched.Finds r m) : loader.Finds r m := by
  obtain ⟨v, hv⟩ := h
  rw [(loader.watched_matches.load r v v.unwatched rfl).1] at hv
  exact ⟨v.unwatched, hv⟩

/-! ### Calls that spoil nothing -/

/-- What a call of the generator has to do and to leave alone in a batch over references: it changes
no source of theirs, and makes no directory older that is in the place of a libdoc of theirs. When
it fails it changes no file. When it succeeds it leaves a file at the path of the libdoc that is
as new as all sources, and changes no other file. -/
structure Generation.Orderly (loader : ModuleLoader σ) (references : List Reference)
    (c : Generation) : Prop where
  source : ∀ r ∈ references, ∀ m, loader.Finds r m →
    c.after.changed m.source = c.before.changed m.source
  directory : ∀ r ∈ references, ∀ k t,
    c.before.locate true (artifactPath c.cacheDir r.cacheKey) = .ok (.taken k (.directory t)) →
      ∃ t', t ≤ t' ∧ c.after.entryAt? k = some (.directory t')
  failed : ∀ e, c.reply = .error e → FileSystem.Retains (fun _ => False) c.before c.after
  written : ∀ path, c.reply = .ok path →
    path = artifactPath c.cacheDir c.cacheKey ∧
      ∃ l content mode time, c.after.locate true path = .ok (.taken l (.file content mode time)) ∧
        FileSystem.Retains (· = l) c.before c.after ∧
        ∀ r ∈ references, ∀ m, loader.Finds r m → c.before.changed m.source ≤ time

/-- All ways are kept, and all libdocs of the references that can be reused. -/
structure Lasting (loader : ModuleLoader σ) (references : List Reference) (cacheDir : Path)
    (fs fs' : FileSystem) : Prop where
  ways : FileSystem.Ways fs fs'
  hit : ∀ r ∈ references, ∀ m, loader.Finds r m → ∀ path,
    CacheCheck.look fs cacheDir r.cacheKey m.source = .hit path →
      CacheCheck.look fs' cacheDir r.cacheKey m.source = .hit path

section Lasting

variable {loader : ModuleLoader σ} {references : List Reference} {cacheDir : Path}
  {fs fs' fs'' : FileSystem}

theorem Lasting.refl (fs : FileSystem) : Lasting loader references cacheDir fs fs :=
  ⟨FileSystem.Ways.refl fs, fun _ _ _ _ _ h => h⟩

theorem Lasting.trans (h : Lasting loader references cacheDir fs fs')
    (h' : Lasting loader references cacheDir fs' fs'') :
    Lasting loader references cacheDir fs fs'' where
  ways := h.ways.trans h'.ways
  hit r hr m hm path hhit := h'.hit r hr m hm path (h.hit r hr m hm path hhit)

theorem Generation.Orderly.lasting {c : Generation} (h : c.Orderly loader references) :
    Lasting loader references c.cacheDir c.before c.after := by
  cases hreply : c.reply with
  | error e =>
    have retains := h.failed e hreply
    refine ⟨retains.toWays, fun r hr m hm path hhit => ?_⟩
    have hpath := (CacheCheck.look_eq_hit_iff.mp hhit).1
    subst hpath
    exact CacheCheck.look_of_retains retains hhit (h.source r hr m hm) (h.directory r hr)
      fun _ _ _ _ hfalse => hfalse.elim
  | ok path =>
    obtain ⟨_, l, content, mode, time, hlocate, retains, hfresh⟩ := h.written path hreply
    refine ⟨retains.toWays, fun r hr m hm path hhit => ?_⟩
    have hpath := (CacheCheck.look_eq_hit_iff.mp hhit).1
    subst hpath
    refine CacheCheck.look_of_retains retains hhit (h.source r hr m hm) (h.directory r hr) ?_
    rintro k _ _ _ rfl _
    exact ⟨content, mode, time, FileSystem.entryAt?_of_locate hlocate, hfresh r hr m hm⟩

/-- After a call that succeeded the libdoc can be reused. -/
theorem Generation.Orderly.look_after {c : Generation} (h : c.Orderly loader references)
    {r : Reference} (hr : r ∈ references) {m : LoadedModule} (hm : loader.Finds r m)
    (hkey : c.cacheKey = r.cacheKey) {path : Path} (hreply : c.reply = .ok path) :
    CacheCheck.look c.after c.cacheDir r.cacheKey m.source = .hit path := by
  obtain ⟨hpath, l, content, mode, time, hlocate, _, hfresh⟩ := h.written path hreply
  rw [hkey] at hpath
  refine CacheCheck.look_eq_hit_iff.mpr ⟨hpath, l, _, hlocate, ?_⟩
  rw [h.source r hr m hm]
  exact hfresh r hr m hm

end Lasting

/-! ### One library -/

namespace Processor

variable {p : Processor σ} {references : List Reference} {cacheDir : Path} {r : Reference}
  {v : World (Watched σ)}

/-- The record of a library that has its libdoc. -/
def obtained (cacheDir : Path) (r : Reference) (m : LoadedModule) (status : CacheStatus) :
    LibraryRecord :=
  conclude r (.ok ⟨r.logicalName, artifactPath cacheDir r.cacheKey,
    reportedSource r ⟨r.logicalName, m.importName, m.source, r⟩, status⟩)

theorem eq_of_obtained_key {s : Reference} {m : LoadedModule} {status : CacheStatus}
    (h : (obtained cacheDir s m status).libraryKey = r.raw) : s = r := by
  rw [obtained, conclude_libraryKey] at h
  exact congrArg Reference.mk h

/-- With no module registered a reference is resolved to what its loader loads. -/
theorem resolve_empty_eq_ok_iff {loader : ModuleLoader σ} {w : World σ} {m : ResolvedModule} :
    (loader.resolve .empty r w).value.1 = .ok m ↔
      ∃ l, ((loader.load r).run w).value = .ok l ∧
        m = ⟨r.logicalName, l.importName, l.source, r⟩ := by
  have hnone : ModuleLoader.registered? .empty r = none := by
    rw [ModuleLoader.registered?]
    cases r.kind <;> rfl
  cases hload : ((loader.load r).run w).value with
  | error e => simp [(loader.resolve_of_error hnone hload).1]
  | ok l => simp [(loader.resolve_of_ok hnone hload).1, eq_comm]

/-- The last call of the generator is one of those that were written down. -/
theorem orderly_of_generations {key : String}
    (orderly : ∀ c ∈ ((p.watched.generator r key cacheDir).run v).world.host.generations,
      c.Orderly p.loader references) :
    Generation.Orderly p.loader references ⟨r, key, cacheDir, v.files,
      ((p.watched.generator r key cacheDir).run v).value,
      ((p.watched.generator r key cacheDir).run v).world.files⟩ := by
  refine orderly _ ?_
  rw [p.generations_watched]
  exact List.mem_append_right _ List.mem_cons_self

/-- Processing a library spoils no libdoc of the batch, and after a success the libdoc of the library
can be reused. -/
theorem process_lasting (fixed : p.loader.Fixed) (hr : r ∈ references)
    (orderly : ∀ c ∈ (p.watched.process cacheDir .empty r v).world.host.generations,
      c.Orderly p.loader references) :
    let o := p.watched.process cacheDir .empty r v
    Lasting p.loader references cacheDir v.files o.world.files ∧
      (o.value.1.status = .success → ∃ m status, p.loader.Finds r m ∧
        o.value.1 = obtained cacheDir r m status ∧
        CacheCheck.look o.world.files cacheDir r.cacheKey m.source =
          .hit (artifactPath cacheDir r.cacheKey)) := by
  intro o
  have hstep := p.watched.process_step cacheDir .empty r v
  change p.watched.Step cacheDir .empty r v o.value.1 o.world at hstep
  change ∀ c ∈ o.world.host.generations, c.Orderly p.loader references at orderly
  have hfiles := fixed.watched.files_resolve .empty r v
  change (p.watched.loader.resolve .empty r v).world.files = v.files at hfiles
  generalize o.value.1 = record at hstep ⊢
  generalize o.world = after at hstep orderly ⊢
  cases hstep with
  | unresolved resolve =>
    rw [hfiles]
    refine ⟨Lasting.refl _, fun hsuccess => ?_⟩
    cases hsuccess
  | @reused m path resolve check =>
    rw [hfiles] at check ⊢
    obtain ⟨l, hload, rfl⟩ := resolve_empty_eq_ok_iff.mp resolve
    have hpath := (CacheCheck.look_eq_hit_iff.mp check).1
    subst hpath
    exact ⟨Lasting.refl _, fun _ => ⟨l, .hit, ModuleLoader.finds_of_watched ⟨v, hload⟩, rfl, check⟩⟩
  | failed =>
    have lasting := (orderly_of_generations orderly).lasting
    rw [hfiles] at lasting
    refine ⟨lasting, fun hsuccess => ?_⟩
    cases hsuccess
  | @generated m path resolve check generate =>
    have called := orderly_of_generations orderly
    have lasting := called.lasting
    rw [hfiles] at lasting
    obtain ⟨l, hload, rfl⟩ := resolve_empty_eq_ok_iff.mp resolve
    have hfinds : p.loader.Finds r l := ModuleLoader.finds_of_watched ⟨v, hload⟩
    have hlook := called.look_after hr hfinds rfl generate
    have hpath := (CacheCheck.look_eq_hit_iff.mp hlook).1
    subst hpath
    exact ⟨lasting, fun _ => ⟨l, .miss, hfinds, rfl, hlook⟩⟩

/-- A library whose libdoc can be reused is processed without a call of the generator. -/
theorem process_reused (fixed : p.loader.Fixed) {m : LoadedModule} (hm : p.loader.Finds r m)
    (check : CacheCheck.look v.files cacheDir r.cacheKey m.source =
      .hit (artifactPath cacheDir r.cacheKey)) :
    let o := p.watched.process cacheDir .empty r v
    o.value.1 = obtained cacheDir r m .hit ∧ o.world.files = v.files ∧
      o.world.host.generations = v.host.generations := by
  intro o
  have hfiles := fixed.watched.files_resolve .empty r v
  have hgenerations := (p.loader.watched_keeps_generations (· = v.host.generations)).resolve .empty r
    v rfl
  have hload : ((p.watched.loader.load r).run v).value = .ok m :=
    (p.loader.watched_matches.load r v v.unwatched rfl).1.trans (fixed.load_of_finds hm v.unwatched)
  have hresolve := resolve_empty_eq_ok_iff.mpr ⟨m, hload, rfl⟩
  change (p.watched.loader.resolve .empty r v).world.files = v.files at hfiles
  have hstep := p.watched.process_step cacheDir .empty r v
  change p.watched.Step cacheDir .empty r v o.value.1 o.world at hstep
  generalize o.value.1 = record at hstep ⊢
  generalize o.world = after at hstep ⊢
  rw [← hfiles] at check
  cases hstep with
  | unresolved resolve =>
    rw [hresolve] at resolve
    cases resolve
  | reused resolve check' =>
    rw [hresolve] at resolve
    cases resolve
    have hpath := CacheCheck.hit.inj (check.symm.trans check')
    subst hpath
    exact ⟨rfl, hfiles, hgenerations⟩
  | failed resolve check' =>
    rw [hresolve] at resolve
    cases resolve
    exact absurd check (check' _)
  | generated resolve check' =>
    rw [hresolve] at resolve
    cases resolve
    exact absurd check (check' _)

/-! ### Batches -/

/-- Processing libraries of a batch spoils no libdoc of the batch, and at the end those that succeeded
have libdocs that can be reused. -/
theorem processEach_lasting (fixed : p.loader.Fixed) {rs : List Reference}
    (hrs : ∀ r ∈ rs, r ∈ references)
    (orderly : ∀ c ∈ (p.watched.processEach cacheDir .empty rs v).world.host.generations,
      c.Orderly p.loader references) :
    let o := p.watched.processEach cacheDir .empty rs v
    Lasting p.loader references cacheDir v.files o.world.files ∧
      ∀ a ∈ o.value.1, a.status = .success → ∃ r ∈ rs, ∃ m status, p.loader.Finds r m ∧
        a = obtained cacheDir r m status ∧
        CacheCheck.look o.world.files cacheDir r.cacheKey m.source =
          .hit (artifactPath cacheDir r.cacheKey) := by
  induction rs generalizing v with
  | nil =>
    refine ⟨Lasting.refl _, fun a ha => ?_⟩
    cases ha
  | cons r rest ih =>
    intro o
    obtain ⟨hvalue, hworld⟩ := p.watched.processEach_cons cacheDir .empty r rest v
    rw [process_registry, Registry.erase_empty] at hvalue hworld
    rw [hworld] at orderly
    set first := p.watched.process cacheDir .empty r v with hfirst
    set after := p.watched.processEach cacheDir .empty rest first.world with hafter
    have grown : first.world.host.generations <+: after.world.host.generations :=
      (p.watched_keeps_prefix cacheDir first.world.host.generations).processEach .empty rest
        first.world List.prefix_rfl
    obtain ⟨lasting, obtains⟩ := process_lasting fixed (hrs r List.mem_cons_self)
      fun c hc => orderly c (grown.subset hc)
    obtain ⟨lasting', obtains'⟩ := ih (fun s hs => hrs s (List.mem_cons_of_mem _ hs)) orderly
    have hfiles : o.world.files = after.world.files := congrArg World.files hworld
    have hrecords : o.value.1 = first.value.1 :: after.value.1 := congrArg Prod.fst hvalue
    rw [hfiles, hrecords]
    refine ⟨lasting.trans lasting', fun a ha hsuccess => ?_⟩
    rcases List.mem_cons.mp ha with rfl | ha
    · obtain ⟨m, status, hm, hrecord, hlook⟩ := obtains hsuccess
      have hlast := lasting'.hit r (hrs r List.mem_cons_self) m hm _ hlook
      exact ⟨r, List.mem_cons_self, m, status, hm, hrecord, hlast⟩
    · obtain ⟨s, hs, rest⟩ := obtains' a ha hsuccess
      exact ⟨s, List.mem_cons_of_mem _ hs, rest⟩

/-- Libraries whose libdocs can be reused are processed without a call of the generator. -/
theorem processEach_reused (fixed : p.loader.Fixed) {rs : List Reference}
    (found : ∀ r ∈ rs, ∃ m, p.loader.Finds r m ∧
      CacheCheck.look v.files cacheDir r.cacheKey m.source =
        .hit (artifactPath cacheDir r.cacheKey)) :
    let o := p.watched.processEach cacheDir .empty rs v
    o.world.files = v.files ∧ o.world.host.generations = v.host.generations ∧
      ∀ b ∈ o.value.1, ∃ r ∈ rs, ∃ m, p.loader.Finds r m ∧ b = obtained cacheDir r m .hit := by
  induction rs generalizing v with
  | nil =>
    refine ⟨rfl, rfl, fun b hb => ?_⟩
    cases hb
  | cons r rest ih =>
    intro o
    obtain ⟨hvalue, hworld⟩ := p.watched.processEach_cons cacheDir .empty r rest v
    rw [process_registry, Registry.erase_empty] at hvalue hworld
    obtain ⟨m, hm, hlook⟩ := found r List.mem_cons_self
    obtain ⟨hrecord, hfiles, hgenerations⟩ := process_reused fixed hm hlook
    set first := p.watched.process cacheDir .empty r v with hfirst
    set after := p.watched.processEach cacheDir .empty rest first.world with hafter
    obtain ⟨hfiles', hgenerations', hrecords'⟩ := ih (v := first.world) fun s hs => by
      rw [hfiles]
      exact found s (List.mem_cons_of_mem _ hs)
    have hrecords : o.value.1 = first.value.1 :: after.value.1 := congrArg Prod.fst hvalue
    have hafter' : o.world = after.world := hworld
    rw [hafter', hrecords]
    refine ⟨hfiles'.trans hfiles, hgenerations'.trans hgenerations, fun b hb => ?_⟩
    rcases List.mem_cons.mp hb with rfl | hb
    · exact ⟨r, List.mem_cons_self, m, hm, hrecord⟩
    · obtain ⟨s, hs, rest⟩ := hrecords' b hb
      exact ⟨s, List.mem_cons_of_mem _ hs, rest⟩

/-- **A second batch reuses what the first one obtained.** Let the answers of the loader be fixed, and
let the first batch have a report and have made orderly calls of the generator only. Then a second
batch over libraries that have success records, with the registry that the first one left or with
a new one, calls the generator for none of them and changes no file, and each library has a success
record with a hit and the name, source and libdoc that it had in the first report. -/
theorem second_batch_reuses {p : Processor σ} {environment : HostEnvironment} {cacheDir : Path}
    {xs : List Reference} {w : World σ} {report : Report} (fixed : p.loader.Fixed) :
    let run := p.watched.runBatch environment cacheDir
    let first := run .empty xs w.watched
    first.value.1 = .ok report →
    (∀ c ∈ first.world.host.generations, c.Orderly p.loader xs) →
    ∀ ys : List Reference,
    (∀ r ∈ ys, ∃ a, report.libraries.get? r.raw = some a ∧ a.status = .success) →
    ∀ registry ∈ [first.value.2, Registry.empty],
      let second := run registry ys first.world
      second.world.host.generations = first.world.host.generations ∧
      second.world.files = first.world.files ∧
      ∃ report', second.value.1 = .ok report' ∧
        ∀ r ∈ ys, ∃ a b, report.libraries.get? r.raw = some a ∧
          report'.libraries.get? r.raw = some b ∧
          b.status = .success ∧ b.cacheStatus = .hit ∧ b.name = a.name ∧
          b.sourcePath = a.sourcePath ∧ b.xmlLibdocPath = a.xmlLibdocPath := by
  intro run first hreport orderly ys hys registry hregistry second
  obtain rfl : registry = .empty := registry_of_left_or_new hregistry
  cases hmake : (makeCacheDir cacheDir w.watched).value with
  | error e =>
    obtain ⟨hfirst, _⟩ : first.value = _ ∧ _ := runBatch_of_error hmake
    rw [hfirst] at hreport
    cases hreport
  | ok made =>
    obtain ⟨hfirst, hfirst'⟩ : first.value = _ ∧ first.world = _ := runBatch_of_made hmake
    rw [hfirst] at hreport
    cases hreport
    rw [hfirst'] at orderly
    obtain ⟨lasting, obtains⟩ := processEach_lasting fixed (fun r hr => hr) orderly
    rw [← hfirst'] at lasting obtains
    set records := (p.watched.processEach cacheDir .empty xs
      (makeCacheDir cacheDir w.watched).world).value.1
    have hfound : ∀ r ∈ ys, ∃ m status, p.loader.Finds r m ∧
        (Catalog.empty.insertAll records).get? r.raw = some (obtained cacheDir r m status) ∧
        CacheCheck.look first.world.files cacheDir r.cacheKey m.source =
          .hit (artifactPath cacheDir r.cacheKey) := by
      intro r hr
      obtain ⟨a, hget, hsuccess⟩ := hys r hr
      obtain ⟨hmem, hkey⟩ := Catalog.mem_of_get?_insertAll_empty hget
      obtain ⟨s, _, m, status, hm, rfl, hlook⟩ := obtains a hmem hsuccess
      obtain rfl := eq_of_obtained_key hkey
      exact ⟨m, status, hm, hget, hlook⟩
    have hsettled : first.world.files.Settled cacheDir :=
      lasting.ways.settled (settled_of_makeCacheDir hmake)
    obtain ⟨hsecond, hsecond'⟩ : second.value = _ ∧ second.world = _ := runBatch_of_settled hsettled
    obtain ⟨hfiles, hgenerations, hrecords⟩ := processEach_reused fixed fun r hr => by
      obtain ⟨m, _, hm, _, hlook⟩ := hfound r hr
      exact ⟨m, hm, hlook⟩
    rw [hsecond, hsecond']
    refine ⟨hgenerations, hfiles, _, rfl, fun r hr => ?_⟩
    obtain ⟨m, status, hm, hget, _⟩ := hfound r hr
    obtain ⟨b, hb, hkey, hget'⟩ :=
      p.watched.exists_get?_processEach cacheDir .empty first.world hr
    obtain ⟨s, _, m', hm', rfl⟩ := hrecords b hb
    obtain rfl := eq_of_obtained_key hkey
    obtain rfl := fixed.finds_unique hm' hm
    exact ⟨_, _, hget, hget' _, rfl, rfl, rfl, rfl, rfl⟩

end Processor

/-! ### A sample -/

namespace Sharing

/-- A loader that finds `foo` by its file and by the key of that, and a module without a source. -/
def modules : LoaderTable where
  modules := [("bad", .found none none),
    ("foo-32b94cc202acd019", .found none (some (.ofString "/lib/foo.py")))]
  files := [("/lib/foo.py", .found none (some (.ofString "/lib/foo.py")))]
  attributes := []

/-- A generator that fails for one library. -/
def libdocs : GeneratorTable where
  rules := [("bad", .fail (.root .robotMissing))]
  others := .succeed false 200 none

def processor : Processor Bench := ⟨modules.loader, libdocs.generator⟩

/-- The first and the last one share a libdoc. -/
def references : List Reference := [⟨"/lib/foo.py"⟩, ⟨"bad"⟩, ⟨"foo-32b94cc202acd019"⟩]

/-- The call of the generator for the file. -/
def written : Generation where
  reference := ⟨"/lib/foo.py"⟩
  cacheKey := "foo-32b94cc202acd019"
  cacheDir := Sample.cacheDir
  before := Sample.made
  reply := .ok (artifactPath Sample.cacheDir "foo-32b94cc202acd019")
  after := Sample.made.add 150 [Utf8.encode "cache"] (Utf8.encode "foo-32b94cc202acd019.xml")
    (.file (Utf8.encode "/lib/foo.py#1") FileSystem.plainMode 200)

/-- The call that fails. -/
def refused : Generation where
  reference := ⟨"bad"⟩
  cacheKey := "bad"
  cacheDir := Sample.cacheDir
  before := written.after
  reply := .error (.root .robotMissing)
  after := written.after

theorem source_of_finds {r : Reference} (hr : r ∈ references) {m : LoadedModule}
    (h : processor.loader.Finds r m) : m.source ∈ [none, some (.ofString "/lib/foo.py")] := by
  have hload := modules.loader_fixed.load_of_finds h Sample.world
  have hall : ∀ r ∈ references, ∀ found ∈ ((modules.loader.load r).run Sample.world).value.toOption,
      found.source ∈ [none, some (.ofString "/lib/foo.py")] := by decide +kernel
  refine hall r hr m ?_
  rw [hload]
  rfl

theorem retains_written : FileSystem.Retains (fun _ => False) written.before written.after := by
  have hplace : Sample.made.entryAt? [Utf8.encode "cache"] = some (.directory 150) ∧
      Sample.made.entryAt? ([Utf8.encode "cache"] ++ [Utf8.encode "foo-32b94cc202acd019.xml"]) =
        none := by
    decide +kernel
  exact FileSystem.retains_add _ hplace.1 hplace.2

theorem orderly : ∀ c ∈ [written, refused], c.Orderly processor.loader references := by
  have hseen : ∀ c ∈ [written, refused],
      (∀ source ∈ [none, some (Path.ofString "/lib/foo.py")],
        c.after.changed source = c.before.changed source ∧ c.before.changed source ≤ 200) ∧
      ∀ r ∈ references, c.before.isDirectory (artifactPath c.cacheDir r.cacheKey) = false := by
    decide +kernel
  intro c hc
  obtain ⟨hsources, hfree⟩ := hseen c hc
  refine ⟨fun r hr m hm => (hsources _ (source_of_finds hr hm)).1, fun r hr k t hlocate => ?_, ?_, ?_⟩
  · have hdirectory := FileSystem.isDirectory_iff.mpr ⟨k, t, hlocate⟩
    rw [hfree r hr] at hdirectory
    cases hdirectory
  · intro e he
    rcases List.mem_pair.mp hc with rfl | rfl
    · cases he
    · exact ⟨FileSystem.Ways.refl _, fun _ _ _ _ _ h => h⟩
  · intro path hpath
    rcases List.mem_pair.mp hc with rfl | rfl
    · cases hpath
      refine ⟨rfl, [Utf8.encode "cache", Utf8.encode "foo-32b94cc202acd019.xml"],
        Utf8.encode "/lib/foo.py#1", FileSystem.plainMode, 200, by decide +kernel,
        retains_written.mono fun _ hfalse => hfalse.elim, ?_⟩
      exact fun r hr m hm => (hsources _ (source_of_finds hr hm)).2
    · cases hpath

/-- A second batch, over libraries that succeed in the first. -/
def again : List Reference := [⟨"foo-32b94cc202acd019"⟩, ⟨"/lib/foo.py"⟩, ⟨"/lib/foo.py"⟩]

/-- The first batch. -/
abbrev first := processor.watched.runBatch Sample.environment Sample.cacheDir .empty references
  Sample.world.watched

/-- The file is documented, the next library fails, and the last one finds the libdoc of the file. -/
theorem reported : first.world.host.generations = [written, refused] ∧
    first.value.1.toOption.map (fun report => report.libraries.records.map fun a =>
      (a.status, a.cacheStatus)) = some [(.success, .miss), (.error, .none), (.success, .hit)] ∧
    ∀ report ∈ first.value.1.toOption, ∀ r ∈ again,
      ∃ a ∈ report.libraries.get? r.raw, a.status = .success := by
  decide +kernel

theorem exists_report : ∃ report, first.value.1 = .ok report ∧
    ∀ r ∈ again, ∃ a, report.libraries.get? r.raw = some a ∧ a.status = .success := by
  obtain ⟨_, hsome, hsuccess⟩ := reported
  cases hreport : first.value.1 with
  | error e =>
    rw [hreport] at hsome
    cases hsome
  | ok report =>
    rw [hreport] at hsuccess
    exact ⟨report, rfl, hsuccess report rfl⟩

theorem orderly_first :
    ∀ c ∈ first.world.host.generations, c.Orderly processor.loader references := by
  rw [reported.1]
  exact orderly

end Sharing

namespace Processor

/-- A batch in which two libraries share a libdoc and one fails, and a second batch over the two. -/
theorem second_batch_reuses_sample :
    let run := Sharing.processor.watched.runBatch Sample.environment Sample.cacheDir
    let first := run .empty Sharing.references Sample.world.watched
    let second := run .empty Sharing.again first.world
    first.value.1.toOption.map (fun report => report.libraries.records.map fun a =>
      (a.status, a.cacheStatus)) = some [(.success, .miss), (.error, .none), (.success, .hit)] ∧
    second.world.host.generations = first.world.host.generations ∧
    second.world.files = first.world.files ∧
    ∃ report, second.value.1 = .ok report ∧ ∀ r ∈ Sharing.again,
      ∃ b, report.libraries.get? r.raw = some b ∧ b.status = .success ∧ b.cacheStatus = .hit := by
  obtain ⟨report, hreport, hagain⟩ := Sharing.exists_report
  have reuse := second_batch_reuses (p := Sharing.processor) Sharing.modules.loader_fixed hreport
    Sharing.orderly_first Sharing.again hagain .empty (by simp)
  refine ⟨Sharing.reported.2.1, reuse.1, reuse.2.1,
    reuse.2.2.imp fun report h => h.imp_right fun records r hr => ?_⟩
  obtain ⟨_, b, _, hget, hsuccess, hhit, _⟩ := records r hr
  exact ⟨b, hget, hsuccess, hhit⟩

end Processor

end KeywordDocs
