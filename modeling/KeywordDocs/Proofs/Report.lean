import KeywordDocs.Proofs.Processing

/-!
# What a report holds

A report has one record per library, in the order in which the libraries were first asked for. A
library that was asked for several times has the record of the last time
(`report_records_of_last_occurrences`).
-/

namespace KeywordDocs.Processor

variable {σ : Type}

/-- Up to the libraries still to come, a batch is the processing of those before. -/
theorem processAll_outcome (p : Processor σ) (cacheDir : Path) (registry : Registry)
    (references : List Reference) (w : World σ) :
    (p.processAll cacheDir .empty registry references w).value.2 =
        (p.processEach cacheDir registry references w).value.2 ∧
      (p.processAll cacheDir .empty registry references w).world =
        (p.processEach cacheDir registry references w).world := by
  rw [processAll_eq]
  exact ⟨rfl, rfl⟩

/-- The record of a library's last occurrence is the one found under its key. -/
theorem get?_last_occurrence (p : Processor σ) (cacheDir : Path) (registry : Registry)
    (pre post : List Reference) (r : Reference) (hlast : r ∉ post) (w : World σ) :
    let before := p.processEach cacheDir registry pre w
    (Catalog.empty.insertAll (p.processEach cacheDir registry (pre ++ r :: post) w).value.1).get?
      r.raw = some (p.process cacheDir before.value.2 r before.world).value.1 := by
  intro before
  set record := (p.process cacheDir before.value.2 r before.world).value.1 with hrecord
  have hkey : record.libraryKey = r.raw := p.process_libraryKey cacheDir _ r _
  set after := p.processEach cacheDir (p.process cacheDir before.value.2 r before.world).value.2 post
    (p.process cacheDir before.value.2 r before.world).world with hafter
  have hrecords : (p.processEach cacheDir registry (pre ++ r :: post) w).value.1 =
      before.value.1 ++ record :: after.value.1 := by
    rw [(p.processEach_append cacheDir registry pre (r :: post) w).1,
      (p.processEach_cons cacheDir before.value.2 r post before.world).1]
  have hnew : record.libraryKey ∉ after.value.1.map (·.libraryKey) := by
    rw [hafter, processEach_keys, hkey]
    intro hmem
    obtain ⟨s, hs, hraw⟩ := List.mem_map.mp hmem
    have hsr : s = r := congrArg Reference.mk hraw
    exact hlast (hsr ▸ hs)
  rw [hrecords, Catalog.insertAll_append, ← hkey]
  exact Catalog.get?_insertAll_of_notMem _ record _ hnew

/-- **The last record wins, the first place stays.** However records are inserted into a catalog, its
keys are different from each other and stand in the order in which they first came, there are as many
records as different keys, and under each key stands the last record that came with it.

So a batch whose cache directory can be made reports exactly one record per library, in the order of
the libraries' first occurrences, and it is the record that processing the last occurrence gave. -/
theorem report_records_of_last_occurrences (p : Processor σ) (environment : HostEnvironment)
    (cacheDir : Path) (registry : Registry) (references : List Reference) (w : World σ)
    (records : List LibraryRecord) :
    ((Catalog.empty.insertAll records).keys.Nodup ∧
      (Catalog.empty.insertAll records).keys = (records.map (·.libraryKey)).eraseDups ∧
      (Catalog.empty.insertAll records).size = (records.map (·.libraryKey)).toFinset.card ∧
      ∀ key, (Catalog.empty.insertAll records).get? key =
        records.reverse.find? (·.libraryKey = key)) ∧
    (∀ e, (makeCacheDir cacheDir w).value = .error e →
      (p.runBatch environment cacheDir registry references w).value.1 = .error e) ∧
    ((makeCacheDir cacheDir w).value = .ok () →
      ∃ report, (p.runBatch environment cacheDir registry references w).value.1 = .ok report ∧
        report.libraries.keys.Nodup ∧
        report.libraries.keys = (references.map (·.raw)).eraseDups ∧
        report.libraries.size = (references.map (·.raw)).toFinset.card ∧
        ∀ pre r post, references = pre ++ r :: post → r ∉ post →
          let before := p.processAll cacheDir .empty registry pre (makeCacheDir cacheDir w).world
          report.libraries.get? r.raw =
            some (p.process cacheDir before.value.2 r before.world).value.1) := by
  refine ⟨⟨Catalog.nodup_keys_insertAll Catalog.nodup_keys_empty records,
    Catalog.keys_insertAll_empty records, Catalog.size_insertAll_empty records, fun key => ?_⟩,
    fun e he => by rw [(runBatch_of_error he).1], fun hmade => ?_⟩
  · rw [Catalog.get?_insertAll, Catalog.get?_empty, Option.or_none]
  · set made := (makeCacheDir cacheDir w).world
    have hkeys := p.processEach_keys cacheDir registry references made
    refine ⟨⟨Catalog.empty.insertAll (p.processEach cacheDir registry references made).value.1,
      environment⟩, by rw [(runBatch_of_made hmade).1],
      Catalog.nodup_keys_insertAll Catalog.nodup_keys_empty _, ?_, ?_, ?_⟩
    · rw [Catalog.keys_insertAll_empty, hkeys]
    · rw [Catalog.size_insertAll_empty, hkeys]
    · rintro pre r post rfl hlast before
      obtain ⟨hregistry, hworld⟩ := p.processAll_outcome cacheDir registry pre made
      rw [show before.value.2 = _ from hregistry, show before.world = _ from hworld]
      exact p.get?_last_occurrence cacheDir registry pre post r hlast made

end KeywordDocs.Processor
