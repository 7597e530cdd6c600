import KeywordDocs.Proofs.Accounts
import KeywordDocs.Proofs.Tables

/-!
# The sources of libraries

A record is to tell where the source of its library is: the file itself, or the place where the module was
found. The record of a success does. That of a failure is made from the pending record, which knows the
reference only; so where a module was found and its libdoc could not be generated, the source of the module
is lost (`source_told_iff`).
-/

namespace KeywordDocs

variable {σ : Type}

namespace LibraryRecord

/-- The source of a library as far as it is known from its reference. -/
theorem sourcePath_pending (r : Reference) :
    (pending r).sourcePath =
      match r.kind with
      | .physical => some (.ofString r.raw)
      | .named => none := by
  cases hkind : r.kind with
  | physical => exact Processor.source_of_physical hkind none
  | named => simp [pending, Reference.isPhysical, hkind]

end LibraryRecord

namespace Processor

theorem reportedSource_eq (r : Reference) (m : ResolvedModule) :
    reportedSource r m =
      match r.kind with
      | .physical => some (.ofString r.raw)
      | .named => m.source := by
  cases hkind : r.kind with
  | physical => exact source_of_physical hkind m.source
  | named => simp [reportedSource, Reference.isPhysical, hkind]

/-- Where a reference was resolved, its record has the source of the module unless the generator failed, and
then no more than the pending record had. -/
theorem Course.sourcePath_cases {cacheDir : Path} {r : Reference} {before : FileSystem}
    {m : ResolvedModule} {calls : List Generation} {record : LibraryRecord}
    (h : Course cacheDir r before (.ok m) calls record) :
    (record.status = .success ∧ (¬ ∃ c ∈ calls, ∃ e, c.reply = .error e) ∧
      record.sourcePath = reportedSource r m) ∨
    (record.status = .error ∧ (∃ c ∈ calls, ∃ e, c.reply = .error e) ∧
      record.sourcePath = (LibraryRecord.pending r).sourcePath) := by
  cases h with
  | reused check => exact .inl ⟨rfl, by simp, rfl⟩
  | generated check => exact .inl ⟨rfl, by simp, rfl⟩
  | @failed m e after check => exact .inr ⟨rfl, ⟨_, List.mem_singleton_self _, e, rfl⟩, rfl⟩

/-- **A failure to generate loses the source of a module, and nothing else does.** Let the reference of a
library be resolved to a module, whatever is registered. The record of a file has the file itself for its
source, however the library fares. That of a module has the source of the module if its libdoc was reused
or generated, and none if the generator was called and failed. So the source is told as it is due, except
for a module that has one and for which the generator failed. -/
theorem source_told_iff {p : Processor σ} {registry : Registry} {r : Reference} {w : World σ}
    {m : ResolvedModule} (resolved : (p.loader.resolve registry r w).value.1 = .ok m)
    (cacheDir : Path) :
    let record := (p.process cacheDir registry r w).value.1
    let failed := ∃ c ∈ p.generationsOf cacheDir registry r w, ∃ e, c.reply = .error e
    let due := match r.kind with
      | .physical => some (.ofString r.raw)
      | .named => m.source
    (record.status = .success ∨ record.status = .error) ∧ (record.status = .error ↔ failed) ∧
    (r.kind = .physical → record.sourcePath = some (.ofString r.raw)) ∧
    (r.kind = .named → ¬ failed → record.sourcePath = m.source) ∧
    (r.kind = .named → failed → record.sourcePath = none) ∧
    (record.sourcePath = due ↔ ¬ (r.kind = .named ∧ failed ∧ ∃ path, m.source = some path)) := by
  intro record failed due
  have course : Course cacheDir r (p.loader.resolve registry r w).world.files (.ok m)
      (p.generationsOf cacheDir registry r w) record := resolved ▸ p.process_course cacheDir registry r w
  rcases course.sourcePath_cases with ⟨hstatus, hfine, hsource⟩ | ⟨hstatus, hfailed, hsource⟩
  · rw [reportedSource_eq] at hsource
    have hno_error : ¬ record.status = .error := by
      rw [hstatus]
      simp
    refine ⟨.inl hstatus, iff_of_false hno_error hfine, fun hkind => ?_, fun hkind _ => ?_,
      fun _ hfailed => absurd hfailed hfine, iff_of_true hsource fun lost => hfine lost.2.1⟩
    · rw [hsource, hkind]
    · rw [hsource, hkind]
  · rw [LibraryRecord.sourcePath_pending] at hsource
    refine ⟨.inr hstatus, iff_of_true hstatus hfailed, fun hkind => ?_,
      fun _ hfine => absurd hfailed hfine, fun hkind _ => ?_, ?_⟩
    · rw [hsource, hkind]
    · rw [hsource, hkind]
    · cases hkind : r.kind with
      | physical => exact iff_of_true (by simp [hsource, due, hkind]) (by simp)
      | named =>
        have hnone : record.sourcePath = none := by rw [hsource, hkind]
        have hdue : due = m.source := by simp only [due, hkind]
        rw [hnone, hdue]
        cases m.source with
        | none => simp
        | some path => simpa using hfailed

/-- A module that was registered by its file: the record has the source of the file. -/
theorem source_told_iff_sample :
    let registry := (Sample.modules.loader.resolve .empty ⟨"/lib/foo.py"⟩ Sample.world).value.2
    let resolution := (Sample.processor.loader.resolve registry ⟨"foo"⟩ Sample.world).value.1
    let record := (Sample.processor.process Sample.cacheDir registry ⟨"foo"⟩ Sample.world).value.1
    let m : ResolvedModule := ⟨"foo", "foo", some (.ofString "/lib/foo.py"), ⟨"/lib/foo.py"⟩⟩
    resolution = .ok m ∧ (Reference.mk "foo").kind = .named ∧ record.status = .success ∧
      record.sourcePath = m.source := by
  intro registry resolution record m
  have resolved : resolution = .ok m := by decide +kernel
  have hkind : (Reference.mk "foo").kind = .named := by decide +kernel
  have hstatus : record.status = .success := by decide +kernel
  obtain ⟨_, hfailed, _, hnamed, _⟩ := source_told_iff resolved Sample.cacheDir
  refine ⟨resolved, hkind, hstatus, hnamed hkind fun failed => ?_⟩
  have herror : record.status = .error := hfailed.mpr failed
  rw [hstatus] at herror
  cases herror

end Processor

namespace Crash

/-- A loader that finds `Keywords` in a file. -/
def modules : LoaderTable where
  modules := [("Keywords", .found none (some (.ofString "lib/Keywords.py")))]
  files := []
  attributes := []

/-- A generator that fails for all libraries. -/
def libdocs : GeneratorTable where
  rules := []
  others := .fail (.root (.other "engine crashed"))

def processor : Processor Bench := ⟨modules.loader, libdocs.generator⟩

/-- A file system without a libdoc. -/
def world : World Bench := ⟨⟨[], [], 0, false⟩, 0, .fresh⟩

end Crash

/-- The module `Keywords` is found in its file, but the record of the failure to generate its libdoc does
not tell the file. -/
theorem source_lost_in_failure :
    let r : Reference := ⟨"Keywords"⟩
    let cacheDir := Path.ofString "cache"
    let record := (Crash.processor.process cacheDir .empty r Crash.world).value.1
    r.kind = .named ∧
      (Crash.processor.loader.resolve .empty r Crash.world).value.1 =
        .ok ⟨"Keywords", "Keywords", some (.ofString "lib/Keywords.py"), r⟩ ∧
      record.status = .error ∧ record.sourcePath = none := by
  decide +kernel

end KeywordDocs
