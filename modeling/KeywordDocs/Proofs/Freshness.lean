import KeywordDocs.Proofs.Directories

/-!
# Libdocs and their sources

A libdoc can be reused when its path leads to an entry that is not older than the source
(`look_eq_hit_iff`). What a change of the file system does to that is told from the entries that are
kept (`Retains`): see `look_of_retains` for a libdoc that stays, or is written anew, and
`look_of_renewed` for one that is written.
-/

namespace KeywordDocs

/-- The time at which an entry was last changed; that of a link can not be told. -/
def Entry.modified : Entry → Time
  | .file _ _ time => time
  | .directory time => time
  | .link _ => Time.epoch

namespace FileSystem

variable {fs fs' : FileSystem}

theorem pathExists_iff {p : Path} :
    fs.pathExists p = true ↔ ∃ k e, fs.locate true p = .ok (.taken k e) := by
  unfold pathExists find
  constructor
  · intro h
    split at h
    · rename_i e hfind
      split at hfind
      · rename_i k e' hlocate
        exact ⟨k, e', hlocate⟩
      · cases hfind
      · cases hfind
    · cases h
  · rintro ⟨k, e, hlocate⟩
    rw [hlocate]

theorem changed_of_locate {p : Path} {k : Location} {e : Entry}
    (h : fs.locate true p = .ok (.taken k e)) : fs.changed (some p) = e.modified := by
  have hfind : fs.find p = .ok e := by rw [find, h]
  change (fs.modified? p).getD Time.epoch = e.modified
  rw [modified?, hfind]
  cases e <;> rfl

/-- What leads nowhere has the time of the epoch. -/
theorem changed_of_missing {p : Path} (h : ¬ fs.pathExists p = true) :
    fs.changed (some p) = Time.epoch := by
  change (fs.modified? p).getD Time.epoch = Time.epoch
  rw [pathExists] at h
  rw [modified?]
  cases hfind : fs.find p with
  | ok e => rw [hfind] at h; exact absurd rfl h
  | error e => rfl

/-! ### Entries that are kept -/

/-- The one file system has all directories and links of the other, and all its files but those at
some locations. -/
structure Retains (except : Location → Prop) (fs fs' : FileSystem) : Prop extends Ways fs fs' where
  file : ∀ k content mode time, ¬ except k → fs.entryAt? k = some (.file content mode time) →
    fs'.entryAt? k = some (.file content mode time)

/-- A new entry in a free place leaves all others alone. -/
theorem retains_add {now : Time} {d : Location} {n : Bytes} (e : Entry) {t : Time}
    (directory : fs.entryAt? d = some (.directory t)) (missing : fs.entryAt? (d ++ [n]) = none) :
    Retains (fun _ => False) fs (fs.add now d n e) where
  toWays := ways_add e directory missing
  file k content mode time _ entry := by
    have hnew : k ≠ d ++ [n] := by
      rintro rfl
      rw [missing] at entry
      cases entry
    have hdir : k ≠ d := by
      rintro rfl
      rw [directory] at entry
      cases entry
    rw [entryAt?_add, if_neg hnew, if_neg hdir, entry]

theorem Retains.mono {except except' : Location → Prop} (h : Retains except fs fs')
    (sub : ∀ k, except k → except' k) : Retains except' fs fs' where
  toWays := h.toWays
  file k content mode time hk entry := h.file k content mode time (fun he => hk (sub k he)) entry

section Written

variable {l : Location} {content : Bytes} {mode : Nat} {time : Time}

/-- What was there when a file was written is there afterwards. -/
theorem Retains.pathExists (kept : Retains (· = l) fs fs')
    (written : fs'.entryAt? l = some (.file content mode time)) {p : Path}
    (h : fs.pathExists p = true) : fs'.pathExists p = true := by
  obtain ⟨k, e, hlocate⟩ := pathExists_iff.mp h
  have entry := entryAt?_of_locate hlocate
  cases e with
  | directory t =>
    obtain ⟨t', entry'⟩ := kept.directory k t entry
    exact pathExists_iff.mpr ⟨k, _, kept.toWays.locate hlocate entry' trivial⟩
  | link target =>
    exact pathExists_iff.mpr ⟨k, _, kept.toWays.locate hlocate (kept.link k target entry) trivial⟩
  | file content' mode' time' =>
    by_cases hk : k = l
    · subst hk
      exact pathExists_iff.mpr ⟨k, _, kept.toWays.locate hlocate written trivial⟩
    · have entry' := kept.file k content' mode' time' hk entry
      exact pathExists_iff.mpr ⟨k, _, kept.toWays.locate hlocate entry' trivial⟩

/-- Let a file be written and nothing else be changed, save for the times of directories to which
the source does not lead. Then a source that was not younger than the file is not younger still. -/
theorem changed_le_of_written (written : fs'.entryAt? l = some (.file content mode time))
    (kept : Retains (· = l) fs fs') (only : Retains (· = l) fs' fs) {source : Option Path}
    (directory : ∀ s k t, source = some s → fs.locate true s = .ok (.taken k (.directory t)) →
      fs'.entryAt? k = some (.directory t))
    (h : fs.changed source ≤ time) : fs'.changed source ≤ time := by
  cases source with
  | none => exact h
  | some s =>
    by_cases hexists : fs'.pathExists s = true
    · obtain ⟨k, e, hlocate⟩ := pathExists_iff.mp hexists
      have entry := entryAt?_of_locate hlocate
      rw [changed_of_locate hlocate]
      by_cases hk : k = l
      · subst hk
        rw [written] at entry
        cases entry
        exact Int.le_refl time
      · -- Nothing new leads elsewhere, so the source was there before, as it is now.
        cases e with
        | file content' mode' time' =>
          have hbefore := only.toWays.locate hlocate (only.file k _ _ _ hk entry) trivial
          rwa [changed_of_locate hbefore] at h
        | link target =>
          have hbefore := only.toWays.locate hlocate (only.link k target entry) trivial
          rwa [changed_of_locate hbefore] at h
        | directory t =>
          obtain ⟨t', entry'⟩ := only.directory k t entry
          have hbefore := only.toWays.locate hlocate entry' trivial
          have htime := directory s k t' rfl hbefore
          rw [entry] at htime
          cases htime
          rwa [changed_of_locate hbefore] at h
    · have hbefore : ¬ fs.pathExists s = true := fun hs => hexists (kept.pathExists written hs)
      rw [changed_of_missing hbefore] at h
      rwa [changed_of_missing hexists]

/-- A file was written at the path that is as new as the source, and nothing else was changed but
the times of directories, and not that of the source. -/
def Renewed (path : Path) (source : Option Path) (fs fs' : FileSystem) : Prop :=
  ∃ l content mode time, fs'.locate true path = .ok (.taken l (.file content mode time)) ∧
    fs.changed source ≤ time ∧ Retains (· = l) fs fs' ∧ Retains (· = l) fs' fs ∧
    ∀ s k t, source = some s → fs.locate true s = .ok (.taken k (.directory t)) →
      fs'.entryAt? k = some (.directory t)

/-- What differs from a file system in a file only has all its other entries. -/
theorem retains_of_file_at (workingDirectory : fs'.workingDirectory = fs.workingDirectory)
    (entry : fs.entryAt? l = some (.file content mode time))
    (same : ∀ k, k ≠ l → fs'.entryAt? k = fs.entryAt? k) : Retains (· = l) fs fs' where
  toWays := ways_of_file_at workingDirectory entry same
  file k _ _ _ hne hk := (same k hne).trans hk

/-- A file that is written over another is renewed. -/
theorem renewed_of_write {now time' : Time} {p : Path} {content' : Bytes} {source : Option Path}
    (hlocate : fs.locate true p = .ok (.taken l (.file content mode time)))
    (hwrite : fs.write now p content' time' = .ok fs') (fresh : fs.changed source ≤ time') :
    Renewed p source fs fs' := by
  rw [write, hlocate] at hwrite
  cases hwrite
  have entry := entryAt?_of_locate hlocate
  have hput := entryAt?_put_of_file entry (.file content' mode time')
  have written : (fs.put l (.file content' mode time')).entryAt? l =
      some (.file content' mode time') := (hput l).trans (if_pos rfl)
  have same : ∀ k, k ≠ l → (fs.put l (.file content' mode time')).entryAt? k = fs.entryAt? k :=
    fun k hk => (hput k).trans (if_neg hk)
  have kept : Retains (· = l) fs (fs.put l (.file content' mode time')) :=
    retains_of_file_at rfl entry same
  refine ⟨l, content', mode, time', kept.toWays.locate hlocate written trivial, fresh, kept,
    retains_of_file_at rfl written fun k hk => (same k hk).symm, fun s k t _ hk => ?_⟩
  have hk' := entryAt?_of_locate hk
  refine (same k ?_).trans hk'
  rintro rfl
  rw [entry] at hk'
  cases hk'

end Written

end FileSystem

open FileSystem

/-- A libdoc can be reused when there is something at its path, and it is not older than the source. -/
theorem CacheCheck.look_eq_hit_iff {fs : FileSystem} {cacheDir path : Path} {key : String}
    {source : Option Path} :
    look fs cacheDir key source = .hit path ↔
      path = artifactPath cacheDir key ∧
        ∃ k e, fs.locate true path = .ok (.taken k e) ∧ fs.changed source ≤ e.modified := by
  constructor
  · intro h
    unfold look at h
    dsimp only at h
    split at h
    · cases h
    · rename_i hexists
      split at h
      · cases h
      · rename_i hstale
        cases h
        obtain ⟨k, e, hlocate⟩ := pathExists_iff.mp (not_not.mp hexists)
        rw [changed_of_locate hlocate] at hstale
        exact ⟨rfl, k, e, hlocate, Int.not_lt.mp hstale⟩
  · rintro ⟨rfl, k, e, hlocate, hfresh⟩
    have hexists := pathExists_iff.mpr ⟨k, e, hlocate⟩
    rw [← changed_of_locate hlocate] at hfresh
    unfold look
    dsimp only
    rw [if_neg (not_not.mpr hexists), if_neg (Int.not_lt.mpr hfresh)]

/-- What is at the path of a libdoc and can not be reused is too old. -/
theorem CacheCheck.look_eq_stale {fs : FileSystem} {cacheDir : Path} {key : String}
    {source : Option Path} (hexists : fs.pathExists (artifactPath cacheDir key) = true)
    (h : ∀ path, look fs cacheDir key source ≠ .hit path) : look fs cacheDir key source = .stale := by
  unfold look at h ⊢
  dsimp only at h ⊢
  rw [if_neg (not_not.mpr hexists)] at h ⊢
  split
  · rfl
  · rename_i hfresh
    rw [if_neg hfresh] at h
    exact absurd rfl (h _)

/-- A libdoc that can be reused can be reused as long as the entry at its path is kept or written anew,
and the source is not changed. -/
theorem CacheCheck.look_of_retains {fs fs' : FileSystem} {except : Location → Prop}
    (h : Retains except fs fs') {cacheDir path : Path} {key : String} {source : Option Path}
    (hit : look fs cacheDir key source = .hit path)
    (unchanged : fs'.changed source = fs.changed source)
    (directory : ∀ k t, fs.locate true path = .ok (.taken k (.directory t)) →
      ∃ t', t ≤ t' ∧ fs'.entryAt? k = some (.directory t'))
    (rewritten : ∀ k content mode time, except k → fs.entryAt? k = some (.file content mode time) →
      ∃ content' mode' time', fs'.entryAt? k = some (.file content' mode' time') ∧
        fs.changed source ≤ time') :
    look fs' cacheDir key source = .hit path := by
  obtain ⟨hpath, k, e, hlocate, hfresh⟩ := look_eq_hit_iff.mp hit
  have entry := entryAt?_of_locate hlocate
  refine look_eq_hit_iff.mpr ⟨hpath, k, ?_⟩
  rw [unchanged]
  cases e with
  | directory t =>
    obtain ⟨t', hlater, entry'⟩ := directory k t hlocate
    exact ⟨_, h.toWays.locate hlocate entry' trivial, Int.le_trans hfresh hlater⟩
  | link target => exact ⟨_, h.toWays.locate hlocate (h.link k target entry) trivial, hfresh⟩
  | file content mode time =>
    by_cases hk : except k
    · obtain ⟨content', mode', time', entry', hfresh'⟩ := rewritten k content mode time hk entry
      exact ⟨_, h.toWays.locate hlocate entry' trivial, hfresh'⟩
    · exact ⟨_, h.toWays.locate hlocate (h.file k content mode time hk entry) trivial, hfresh⟩

/-- A libdoc that was written can be reused. -/
theorem CacheCheck.look_of_renewed {fs fs' : FileSystem} {cacheDir : Path} {key : String}
    {source : Option Path} (h : Renewed (artifactPath cacheDir key) source fs fs') :
    look fs' cacheDir key source = .hit (artifactPath cacheDir key) := by
  obtain ⟨l, content, mode, time, hlocate, hfresh, kept, only, directory⟩ := h
  have written := entryAt?_of_locate hlocate
  exact look_eq_hit_iff.mpr
    ⟨rfl, l, _, hlocate, changed_le_of_written written kept only directory hfresh⟩

end KeywordDocs
