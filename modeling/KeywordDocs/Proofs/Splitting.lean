import KeywordDocs.Proofs.Tables

/-!
# Batches in two parts

A batch can be cut in two anywhere. The second part starts from the world that the first one left and
is handed nothing else: each name was released, and the cache directory is not made again. The
reports of the parts are merged record by record (`runBatch_append`).
-/

namespace KeywordDocs.Processor

variable {σ : Type}

/-- **Splitting a batch changes nothing.** Let no call of a loader or a generator remove the cache
directory. Then a batch makes the same calls in the same order and leaves the same world as the batch
of its first references and, after it, the batch of the others, which may be run with the registry that
the first one left or with a new one. Its report is that of the first part, with the records of
the second part inserted in their order; the references of the second part have the records they have
there. Where the cache directory can not be made, none of the batches has a report. -/
theorem runBatch_append {p : Processor σ} {cacheDir : Path}
    (keeps : p.Keeps (fun w => w.files.isDirectory cacheDir = true) cacheDir)
    (environment : HostEnvironment) (xs ys : List Reference) (w : World (Watched σ)) :
    let run := p.watched.runBatch environment cacheDir
    let whole := run .empty (xs ++ ys) w
    let first := run .empty xs w
    ∀ registry ∈ [first.value.2, Registry.empty],
      let second := run registry ys first.world
      whole.world = second.world ∧
      (∀ e, first.value.1 = .error e →
        whole.value.1 = .error e ∧ ∃ e', second.value.1 = .error e') ∧
      ∀ a, first.value.1 = .ok a →
        ∃ b, second.value.1 = .ok b ∧
          whole.value.1 = .ok ⟨a.libraries.insertAll b.libraries.records, environment⟩ ∧
          ∀ r ∈ ys, (a.libraries.insertAll b.libraries.records).get? r.raw =
            b.libraries.get? r.raw := by
  intro run whole first registry hregistry second
  obtain rfl : registry = .empty := registry_of_left_or_new hregistry
  cases hmake : (makeCacheDir cacheDir w).value with
  | error e =>
    obtain ⟨hwhole, hwhole'⟩ : whole.value = _ ∧ whole.world = _ := runBatch_of_error hmake
    obtain ⟨hfirst, hfirst'⟩ : first.value = _ ∧ first.world = _ := runBatch_of_error hmake
    obtain ⟨⟨e', hagain⟩, hsame⟩ := makeCacheDir_of_failed hmake
    rw [← hfirst'] at hagain hsame
    obtain ⟨hsecond, hsecond'⟩ : second.value = _ ∧ second.world = _ := runBatch_of_error hagain
    rw [hwhole, hwhole', hfirst, hsecond, hsecond', hsame, hfirst']
    refine ⟨rfl, fun _ he => ⟨he, e', rfl⟩, fun a ha => ?_⟩
    cases ha
  | ok made =>
    obtain ⟨hwhole, hwhole'⟩ : whole.value = _ ∧ whole.world = _ := runBatch_of_made hmake
    obtain ⟨hfirst, hfirst'⟩ : first.value = _ ∧ first.world = _ := runBatch_of_made hmake
    have hsettled : first.world.files.Settled cacheDir := by
      refine (settled_of_makeCacheDir hmake).imp_right fun hdir => ?_
      rw [hfirst']
      exact keeps.watched.processEach .empty xs _ hdir
    obtain ⟨hsecond, hsecond'⟩ : second.value = _ ∧ second.world = _ := runBatch_of_settled hsettled
    obtain ⟨happend, happend'⟩ :=
      p.watched.processEach_append cacheDir .empty xs ys (makeCacheDir cacheDir w).world
    rw [p.watched.processEach_registry_empty, ← hfirst'] at happend happend'
    set records := (p.watched.processEach cacheDir .empty ys first.world).value.1
    rw [hwhole, hwhole', hfirst, hsecond, hsecond', happend, happend']
    refine ⟨rfl, fun e he => (by cases he), fun a ha => ?_⟩
    cases ha
    refine ⟨_, rfl, ?_, fun r hr => ?_⟩
    · rw [Catalog.insertAll_records, Catalog.insertAll_append]
    · obtain ⟨record, _, _, hget⟩ :=
        p.watched.exists_get?_processEach cacheDir .empty first.world hr
      rw [Catalog.insertAll_records, hget, hget]

/-- A file and, after it, the module of the same name: in one batch or in two. -/
theorem runBatch_append_sample :
    let run := Sample.processor.watched.runBatch Sample.environment Sample.cacheDir
    let whole := run .empty ([⟨"/lib/foo.py"⟩] ++ [⟨"foo"⟩]) Sample.world.watched
    let first := run .empty [⟨"/lib/foo.py"⟩] Sample.world.watched
    let second := run .empty [⟨"foo"⟩] first.world
    whole.world = second.world ∧
      ∀ a, first.value.1 = .ok a →
        ∃ b, second.value.1 = .ok b ∧
          whole.value.1 = .ok ⟨a.libraries.insertAll b.libraries.records, Sample.environment⟩ := by
  have parts := runBatch_append Sample.processor_keeps_directory Sample.environment
    [⟨"/lib/foo.py"⟩] [⟨"foo"⟩] Sample.world.watched .empty (by simp)
  exact ⟨parts.1, fun a ha => (parts.2.2 a ha).imp fun _ merged => ⟨merged.1, merged.2.1⟩⟩

end KeywordDocs.Processor
