import KeywordDocs.Proofs.Changes
import KeywordDocs.Proofs.Independence

/-!
# Calls on demand

The generator is called for a library when the library is resolved and has no libdoc, or one that is older
than its source, in the files that the libraries before it have left (`Processor.needs`). For every other
library nothing is changed at all (`process_on_demand`). So the calls of a batch can be read off the files
it goes through (`callsUpTo_eq`), they follow each other without a gap (`chain_callsUpTo`), and where each
of them writes at most its libdoc the batch writes at most these libdocs (`calls_on_demand`).
-/

namespace KeywordDocs

namespace Processor

variable {σ : Type} {p : Processor σ} {cacheDir : Path} {r : Reference} {w : World σ}

/-- With no module registered the library is resolved, and it has no libdoc or one that is too old. -/
def needs (p : Processor σ) (cacheDir : Path) (r : Reference) (w : World σ) : Bool :=
  match (p.loader.resolve .empty r w).value.1 with
  | .error _ => false
  | .ok m =>
    let check := CacheCheck.look w.files cacheDir r.cacheKey m.source
    check = .stale ∨ check = .missing

/-- What the generator replies when it is called for the library. -/
def reply (p : Processor σ) (cacheDir : Path) (r : Reference) (w : World σ) : Except Failure Path :=
  ((p.generator r r.cacheKey cacheDir).run (p.loader.resolve .empty r w).world).value

theorem needs_of_error {e : ResolveError} (h : (p.loader.resolve .empty r w).value.1 = .error e) :
    p.needs cacheDir r w = false := by
  rw [needs, h]

theorem needs_of_ok {m : ResolvedModule} (h : (p.loader.resolve .empty r w).value.1 = .ok m) :
    p.needs cacheDir r w = true ↔
      ∀ path, CacheCheck.look w.files cacheDir r.cacheKey m.source ≠ .hit path := by
  rw [needs, h]
  cases hlook : CacheCheck.look w.files cacheDir r.cacheKey m.source <;> simp [hlook]

/-! ### One library -/

section Silent

variable (silent : ∀ fs, p.loader.Keeps (·.files = fs))
include silent

/-- The generator is called once for a library that needs it, and not at all for any other, and then no
file is changed. -/
theorem process_on_demand (cacheDir : Path) (r : Reference) (v : World (Watched σ)) :
    let o := p.watched.process cacheDir .empty r v
    o.world.host.generations = v.host.generations ++
        (if p.needs cacheDir r v.unwatched then
          [⟨r, r.cacheKey, cacheDir, v.files, p.reply cacheDir r v.unwatched, o.world.files⟩]
        else []) ∧
      (p.needs cacheDir r v.unwatched = false → o.world.files = v.files) := by
  intro o
  obtain ⟨hvalue, hworld⟩ := p.loader.watched_matches.resolve .empty r v v.unwatched rfl
  have hfiles : (p.watched.loader.resolve .empty r v).world.files = v.files :=
    (silent v.files).watched.resolve .empty r v rfl
  have hsilent : (p.watched.loader.resolve .empty r v).world.host.generations = v.host.generations :=
    (p.loader.watched_keeps_generations (· = v.host.generations)).resolve .empty r v rfl
  have hreply : ((p.watched.generator r r.cacheKey cacheDir).run
      (p.watched.loader.resolve .empty r v).world).value = p.reply cacheDir r v.unwatched :=
    ((p.watched_matches cacheDir).generator r r.cacheKey _ _ hworld).1
  have hstep := p.watched.process_step cacheDir .empty r v
  change p.watched.Step cacheDir .empty r v o.value.1 o.world at hstep
  change (p.watched.loader.resolve .empty r v).value = _ at hvalue
  generalize o.value.1 = record at hstep
  generalize o.world = after at hstep ⊢
  cases hstep with
  | unresolved resolve =>
    rw [hvalue] at resolve
    rw [needs_of_error resolve, hsilent]
    exact ⟨(List.append_nil _).symm, fun _ => hfiles⟩
  | @reused m path resolve check =>
    rw [hvalue] at resolve
    rw [hfiles] at check
    have hneeds : p.needs cacheDir r v.unwatched = false := by
      rw [Bool.eq_false_iff, Ne, needs_of_ok resolve]
      exact fun hnone => hnone path check
    rw [hneeds, hsilent]
    exact ⟨(List.append_nil _).symm, fun _ => hfiles⟩
  | failed resolve check generate =>
    rw [hvalue] at resolve
    rw [hfiles] at check
    have hneeds : p.needs cacheDir r v.unwatched = true := (needs_of_ok resolve).mpr check
    rw [hneeds, p.generations_watched, hsilent, hfiles, hreply]
    exact ⟨rfl, fun h => nomatch h⟩
  | generated resolve check generate =>
    rw [hvalue] at resolve
    rw [hfiles] at check
    have hneeds : p.needs cacheDir r v.unwatched = true := (needs_of_ok resolve).mpr check
    rw [hneeds, p.generations_watched, hsilent, hfiles, hreply]
    exact ⟨rfl, fun h => nomatch h⟩

end Silent

/-! ### Batches -/

/-- The world that is reached once the first libraries of a batch are processed. -/
def reached (p : Processor σ) (cacheDir : Path) (references : List Reference) (w : World σ) (n : Nat) :
    World σ :=
  (p.processEach cacheDir .empty (references.take n) w).world

/-- The calls of the generator that are made by then. -/
def callsUpTo (p : Processor σ) (cacheDir : Path) (references : List Reference) (w : World σ) (n : Nat) :
    List Generation :=
  (p.watched.processEach cacheDir .empty (references.take n) w.watched).world.host.generations

theorem world_processEach_concat (p : Processor σ) (cacheDir : Path) (rs : List Reference)
    (r : Reference) (w : World σ) :
    (p.processEach cacheDir .empty (rs ++ [r]) w).world =
      (p.process cacheDir .empty r (p.processEach cacheDir .empty rs w).world).world := by
  rw [(p.processEach_append cacheDir .empty rs [r] w).2, processEach_registry_empty,
    (p.processEach_cons cacheDir .empty r [] _).2]
  rfl

variable {references : List Reference} {n : Nat}

theorem take_succ_of_getElem? (h : references[n]? = some r) :
    references.take (n + 1) = references.take n ++ [r] := by
  rw [List.take_add_one, h]
  rfl

theorem take_succ_of_getElem?_eq_none (h : references[n]? = none) :
    references.take (n + 1) = references.take n := by
  rw [List.take_add_one, h]
  exact List.append_nil _

theorem unwatched_reached (p : Processor σ) (cacheDir : Path) (rs : List Reference) (w : World σ) :
    (p.watched.processEach cacheDir .empty rs w.watched).world.unwatched =
      (p.processEach cacheDir .empty rs w).world :=
  ((p.watched_matches cacheDir).processEach .empty rs w.watched w rfl).2

section Silent

variable (silent : ∀ fs, p.loader.Keeps (·.files = fs))
include silent

/-- The next library of a batch is processed on demand, in the files that those before it have left. -/
theorem callsUpTo_succ (cacheDir : Path) (w : World σ) (h : references[n]? = some r) :
    let now := p.reached cacheDir references w n
    let next := p.reached cacheDir references w (n + 1)
    p.callsUpTo cacheDir references w (n + 1) = p.callsUpTo cacheDir references w n ++
        (if p.needs cacheDir r now then
          [⟨r, r.cacheKey, cacheDir, now.files, p.reply cacheDir r now, next.files⟩]
        else []) ∧
      (p.needs cacheDir r now = false → next.files = now.files) := by
  intro now next
  have hnow := p.unwatched_reached cacheDir (references.take n) w
  have hnext := p.unwatched_reached cacheDir (references.take (n + 1)) w
  obtain ⟨hcalls, hfiles⟩ := process_on_demand silent cacheDir r
    (p.watched.processEach cacheDir .empty (references.take n) w.watched).world
  rw [← world_processEach_concat, ← take_succ_of_getElem? h] at hcalls hfiles
  rw [hnow, ← World.files_unwatched, ← World.files_unwatched, hnow, hnext] at hcalls hfiles
  exact ⟨hcalls, hfiles⟩

/-- The calls of a batch are those for the libraries that need one when their turn comes, in order. -/
theorem callsUpTo_eq (cacheDir : Path) (references : List Reference) (w : World σ) (n : Nat) :
    let reached := p.reached cacheDir references w
    p.callsUpTo cacheDir references w n =
      ((references.take n).zipIdx.filter fun (r, i) => p.needs cacheDir r (reached i)).map fun (r, i) =>
        ⟨r, r.cacheKey, cacheDir, (reached i).files, p.reply cacheDir r (reached i),
          (reached (i + 1)).files⟩ := by
  intro reached
  induction n with
  | zero => rfl
  | succ n ih =>
    cases h : references[n]? with
    | none =>
      rw [callsUpTo, take_succ_of_getElem?_eq_none h]
      exact ih
    | some r =>
      have hlength : (references.take n).length = n := by
        obtain ⟨hn, _⟩ := List.getElem?_eq_some_iff.mp h
        exact List.length_take_of_le (Nat.le_of_lt hn)
      rw [(callsUpTo_succ silent cacheDir w h).1, ih, take_succ_of_getElem? h, List.zipIdx_append,
        List.filter_append, List.map_append, hlength, Nat.zero_add]
      congr 1
      cases hneeds : p.needs cacheDir r (reached n) <;> simp [reached, hneeds]

/-- The calls of a batch follow each other: nothing else changes a file. -/
theorem chain_callsUpTo (cacheDir : Path) (references : List Reference) (w : World σ) (n : Nat) :
    Generation.Chain w.files (p.callsUpTo cacheDir references w n)
      (p.reached cacheDir references w n).files := by
  induction n with
  | zero => exact .nil
  | succ n ih =>
    cases h : references[n]? with
    | none =>
      rw [callsUpTo, reached, take_succ_of_getElem?_eq_none h]
      exact ih
    | some r =>
      obtain ⟨hcalls, hfiles⟩ := callsUpTo_succ silent cacheDir w h
      rw [hcalls]
      cases hneeds : p.needs cacheDir r (p.reached cacheDir references w n) with
      | false =>
        rw [hfiles hneeds]
        simpa using ih
      | true => exact .concat (c := ⟨r, r.cacheKey, cacheDir, _, _, _⟩) ih

end Silent

/-- **The generator is called on demand, and nothing else changes a file.** Let the cache directory be
there, let no module be registered, and let the loader change no file.

* The calls of a batch are those for the libraries that are resolved and have no libdoc, or one that is
  too old, in the files that are reached when their turn comes: one call for each, with the reference, its
  key and the cache directory, in the order of the batch.
* A library that is not called for leaves the files as they are.
* If each call writes at most its libdoc, then nothing is removed, and a path that does not lead to a
  libdoc of the calls finds what it found before the batch. Only the time of a directory can be another
  one, and only if a call changed it as it put a new libdoc there. -/
theorem calls_on_demand {environment : HostEnvironment} (there : w.files.isDirectory cacheDir = true)
    (silent : ∀ fs, p.loader.Keeps (·.files = fs)) :
    let run := p.watched.runBatch environment cacheDir .empty references w.watched
    let calls := run.world.host.generations
    let reached := fun i => (p.runBatch environment cacheDir .empty (references.take i) w).world
    (calls = (references.zipIdx.filter fun (r, i) => p.needs cacheDir r (reached i)).map fun (r, i) =>
      ⟨r, r.cacheKey, cacheDir, (reached i).files, p.reply cacheDir r (reached i),
        (reached (i + 1)).files⟩) ∧
    (∀ i r, references[i]? = some r → p.needs cacheDir r (reached i) = false →
      (reached (i + 1)).files = (reached i).files) ∧
    ((∀ c ∈ calls, c.Sparing) → ∀ q,
      (w.files.pathExists q = true → run.world.files.pathExists q = true) ∧
      ((∀ c ∈ calls, ¬ run.world.files.Meet q c.libdoc) →
        (run.world.files.find q).toOption = (w.files.find q).toOption ∨
          (∃ c ∈ calls, FileSystem.Gains q c.libdoc c.before c.after) ∧
            w.files.isDirectory q = true ∧ run.world.files.isDirectory q = true)) := by
  intro run calls reached
  have hreached : reached = p.reached cacheDir references w := funext fun i =>
    (runBatch_of_settled (.inr there)).2
  have hrun : run.world = (p.watched.processEach cacheDir .empty references w.watched).world := by
    have hsettled : w.watched.files.Settled cacheDir := .inr there
    exact (runBatch_of_settled hsettled).2
  have hcalls : calls = p.callsUpTo cacheDir references w references.length := by
    rw [callsUpTo, List.take_length]
    exact congrArg (·.host.generations) hrun
  have hfiles : run.world.files = (p.reached cacheDir references w references.length).files := by
    rw [hrun, Processor.reached, List.take_length, ← World.files_unwatched, unwatched_reached]
  have chain := chain_callsUpTo silent cacheDir references w references.length
  have heq := callsUpTo_eq silent cacheDir references w references.length
  rw [List.take_length] at heq
  rw [hreached, hfiles, hcalls]
  refine ⟨heq, fun i r h => (callsUpTo_succ silent cacheDir w h).2, fun sparing q => ⟨?_, ?_⟩⟩
  · exact chain.pathExists sparing
  · exact chain.find_eq sparing

end Processor

/-! ### A sample -/

namespace Sample

/-- Calls that write the fixed products where they are to be written. -/
theorem sparing_of_seen {calls : List Generation}
    (h : ∀ c ∈ calls, c.after = c.before.filled ((c.after.modified? c.cacheDir).getD .epoch) c.libdoc
      (product c.reference c.cacheKey c.cacheDir).file ∧ c.after.pathExists c.libdoc = true) :
    ∀ c ∈ calls, c.Sparing := by
  intro c hc
  obtain ⟨hafter, hexists⟩ := h c hc
  rw [hafter] at hexists
  rw [Generation.Sparing, hafter]
  exact FileSystem.writesAt_filled hexists

/-- A loader that finds `a`, and `b` in the cache directory itself. -/
def packages : LoaderTable where
  modules := [("a", .found none none), ("b", .found none (some cacheDir))]
  files := []
  attributes := []

/-- A cache directory with a libdoc of `b`. -/
def stocked : FileSystem where
  entries := [([Utf8.encode "cache"], .directory 50),
    ([Utf8.encode "cache", Utf8.encode "b.xml"], .file [] FileSystem.plainMode 100)]
  workingDirectory := []
  rootTime := 50
  readsAll := false

end Sample

namespace Processor

/-- A batch that asks twice for `foo`, then for its file, and in between for a library that is not found. -/
theorem calls_on_demand_sample :
    let w : World Bench := ⟨Sample.made, 150, .fresh⟩
    let references : List Reference := [⟨"foo"⟩, ⟨"gone"⟩, ⟨"foo"⟩, Sample.file]
    let run := Sample.press.watched.runBatch Sample.environment Sample.cacheDir .empty references w.watched
    let source := Path.ofString "/lib/foo.py"
    w.files.isDirectory Sample.cacheDir = true ∧
    run.world.host.generations.map (·.reference) = [⟨"foo"⟩, Sample.file] ∧
    (∀ c ∈ run.world.host.generations, c.Sparing) ∧
    run.world.files.pathExists Sample.cacheDir = true ∧
    (run.world.files.find source).toOption = (w.files.find source).toOption := by
  intro w references run source
  have there : w.files.isDirectory Sample.cacheDir = true := by decide +kernel
  have silent : ∀ fs, Sample.press.loader.Keeps (·.files = fs) := Sample.modules.loader_fixed.files
  have sparing : ∀ c ∈ run.world.host.generations, c.Sparing :=
    Sample.sparing_of_seen (by decide +kernel)
  obtain ⟨hcalls, _, hframe⟩ :=
    @calls_on_demand Bench Sample.press Sample.cacheDir w references Sample.environment there silent
  refine ⟨there, ?_, sparing, ?_, ?_⟩
  · rw [hcalls]
    decide +kernel
  · exact (hframe sparing Sample.cacheDir).1 (by decide +kernel)
  · have apart : ∀ c ∈ run.world.host.generations, ¬ run.world.files.Meet source c.libdoc := by
      decide +kernel
    rcases (hframe sparing source).2 apart with hsame | ⟨_, hdirectory, _⟩
    · exact hsame
    · exact absurd hdirectory (by decide +kernel)

/-- A call that writes nothing but the new libdoc of `a` changes the time of the cache directory. That is the
source of `b`, so the libdoc of `b`, which could be reused before, is generated again. -/
theorem new_libdoc_changes_directory :
    let p : Processor Bench := ⟨Sample.packages.loader, Sample.press.generator⟩
    let w : World Bench := ⟨Sample.stocked, 150, .fresh⟩
    let run := fun references =>
      p.watched.runBatch Sample.environment Sample.cacheDir .empty references w.watched
    let o := run [⟨"a"⟩, ⟨"b"⟩]
    w.files.isDirectory Sample.cacheDir = true ∧
    (∀ fs, p.loader.Keeps (·.files = fs)) ∧
    (∀ c ∈ o.world.host.generations, c.Sparing ∧ ¬ o.world.files.Meet Sample.cacheDir c.libdoc) ∧
    o.world.files.modified? Sample.cacheDir ≠ w.files.modified? Sample.cacheDir ∧
    (run [⟨"b"⟩]).world.host.generations = [] ∧
    o.world.host.generations.map (·.reference) = [⟨"a"⟩, ⟨"b"⟩] := by
  intro p w run o
  have sparing : ∀ c ∈ o.world.host.generations, c.Sparing :=
    Sample.sparing_of_seen (by decide +kernel)
  have apart : ∀ c ∈ o.world.host.generations, ¬ o.world.files.Meet Sample.cacheDir c.libdoc := by
    decide +kernel
  refine ⟨by decide +kernel, Sample.packages.loader_fixed.files, fun c hc => ⟨sparing c hc, apart c hc⟩,
    by decide +kernel, by decide +kernel, by decide +kernel⟩

end Processor

end KeywordDocs
