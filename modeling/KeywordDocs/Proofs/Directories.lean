import KeywordDocs.Proofs.Locating
import KeywordDocs.Proofs.Paths

/-!
# Making directories

Whatever is made, it is in nobody's way: all directories and links are kept (`ways_of_makeDirectories`,
`ways_of_write`). A directory that is made with its parents is there afterwards, and is not made
again (`settled_of_makeDirectories`, `makeDirectories_of_settled`). Where a directory can not be made,
parts of the way to it may be; trying once more fails again and makes nothing more
(`makeDirectories_of_failed`).
-/

namespace KeywordDocs

namespace FileSystem

variable {fs fs' : FileSystem} {follow : Bool} {now : Time}

/-! ### Directories -/

theorem isDirectory_iff {p : Path} :
    fs.isDirectory p = true ↔ ∃ k t, fs.locate true p = .ok (.taken k (.directory t)) := by
  unfold isDirectory find
  constructor
  · intro h
    split at h
    · rename_i t hfind
      split at hfind
      · rename_i k e hlocate
        cases hfind
        exact ⟨k, t, hlocate⟩
      · cases hfind
      · cases hfind
    · cases h
  · rintro ⟨k, t, hlocate⟩
    rw [hlocate]

/-- A directory stays one where the ways are kept. -/
theorem Ways.isDirectory (ways : Ways fs fs') {p : Path} (h : fs.isDirectory p = true) :
    fs'.isDirectory p = true := by
  obtain ⟨k, t, hlocate⟩ := isDirectory_iff.mp h
  obtain ⟨t', entry⟩ := ways.directory k t (entryAt?_of_locate hlocate)
  exact isDirectory_iff.mpr ⟨k, t', ways.locate hlocate entry trivial⟩

/-- A directory that is there is not made again. -/
theorem makeDirectory_of_isDirectory {p : Path} (h : fs.isDirectory p = true) :
    fs.makeDirectory now p = .error .alreadyExists := by
  obtain ⟨k, t, hlocate⟩ := isDirectory_iff.mp h
  obtain ⟨usable, leads⟩ := locate_eq_ok_iff.mp hlocate
  obtain ⟨k', e', leads'⟩ := leads.unfollowed
  have hfound : fs.locate false p = .ok (.taken k' e') := locate_eq_ok_iff.mpr ⟨usable, leads'⟩
  rw [makeDirectory, hfound]

/-- A new entry is the only one in its place, and its directory has got the time of the change. -/
theorem entryAt?_add (fs : FileSystem) (now : Time) (d : Location) (n : Bytes) (e : Entry)
    (k : Location) :
    (fs.add now d n e).entryAt? k =
      if k = d ++ [n] then some e
      else if k = d then some (.directory now) else fs.entryAt? k := by
  have hne : d ++ [n] ≠ [] := by simp
  rw [add, entryAt?_put _ hne, entryAt?_setTime]

/-- A new entry in a free place is in nobody's way. -/
theorem ways_add {d : Location} {n : Bytes} (e : Entry) {t : Time}
    (directory : fs.entryAt? d = some (.directory t)) (missing : fs.entryAt? (d ++ [n]) = none) :
    Ways fs (fs.add now d n e) where
  workingDirectory := by
    rw [add, setTime]
    split <;> rfl
  directory l t' hl := by
    have hne : l ≠ d ++ [n] := by
      rintro rfl
      rw [missing] at hl
      cases hl
    rw [entryAt?_add, if_neg hne]
    by_cases hld : l = d
    · exact ⟨_, if_pos hld⟩
    · exact ⟨t', by rw [if_neg hld, hl]⟩
  link l target hl := by
    have hne : l ≠ d ++ [n] := by
      rintro rfl
      rw [missing] at hl
      cases hl
    have hld : l ≠ d := by
      rintro rfl
      rw [directory] at hl
      cases hl
    rw [entryAt?_add, if_neg hne, if_neg hld, hl]

/-- A path that led to a free name leads to the directory that was put there. -/
theorem Leads.filled (ways : Ways fs fs') {links : Nat} {l d : Location} {ps : List Bytes} {n : Bytes}
    {t : Time} (h : Leads fs false links l ps (.free d n))
    (entry : fs'.entryAt? (d ++ [n]) = some (.directory t)) :
    Leads fs' true links l ps (.taken (d ++ [n]) (.directory t)) := by
  generalize hspot : Spot.free d n = spot at h
  induction h with
  | here => cases hspot
  | idle directory idle _ ih =>
    obtain ⟨t', directory'⟩ := ways.directory _ _ directory
    exact .idle directory' idle (ih hspot)
  | up directory _ ih =>
    obtain ⟨t', directory'⟩ := ways.directory _ _ directory
    exact .up directory' (ih hspot)
  | free directory name _ last =>
    cases hspot
    obtain ⟨t', directory'⟩ := ways.directory _ _ directory
    exact .into directory' name entry (Leads.last last entry)
  | link => cases hspot
  | through directory name link followed target_ne _ ih =>
    obtain ⟨t', directory'⟩ := ways.directory _ _ directory
    exact .through directory' name (ways.link _ _ link) (fun h => by cases h.2) target_ne (ih hspot)
  | file => cases hspot
  | into directory name inner _ ih =>
    obtain ⟨t', directory'⟩ := ways.directory _ _ directory
    obtain ⟨t'', inner'⟩ := ways.directory _ _ inner
    exact .into directory' name inner' (ih hspot)

/-- What making a directory does: it fills a free name. -/
theorem makeDirectory_eq_ok {p : Path} (h : fs.makeDirectory now p = .ok fs') :
    ∃ d n, fs.locate false p = .ok (.free d n) ∧ fs' = fs.add now d n (.directory now) := by
  rw [makeDirectory] at h
  split at h
  · cases h
  · rename_i d n hlocate
    cases h
    exact ⟨d, n, hlocate, rfl⟩
  · cases h

theorem ways_of_makeDirectory {p : Path} (h : fs.makeDirectory now p = .ok fs') : Ways fs fs' := by
  obtain ⟨d, n, hlocate, rfl⟩ := makeDirectory_eq_ok h
  obtain ⟨⟨t, directory⟩, missing⟩ := (locate_eq_ok_iff.mp hlocate).2.missing_of_free
  exact ways_add _ directory missing

/-- A directory that was made is there. -/
theorem isDirectory_of_makeDirectory {p : Path} (h : fs.makeDirectory now p = .ok fs') :
    fs'.isDirectory p = true := by
  have ways := ways_of_makeDirectory h
  obtain ⟨d, n, hlocate, rfl⟩ := makeDirectory_eq_ok h
  obtain ⟨usable, leads⟩ := locate_eq_ok_iff.mp hlocate
  have entry : (fs.add now d n (.directory now)).entryAt? (d ++ [n]) = some (.directory now) := by
    rw [entryAt?_add, if_pos rfl]
  refine isDirectory_iff.mpr ⟨d ++ [n], now, locate_eq_ok_iff.mpr ⟨usable, ?_⟩⟩
  rw [ways.start]
  exact leads.filled ways entry

/-! ### Directories with their parents -/

/-- Making directories one after another is in nobody's way. -/
theorem ways_of_makeEach {ps : List Path} {result : Except OsError Unit}
    (h : fs.makeEach now ps = (result, fs')) : Ways fs fs' := by
  induction ps generalizing fs with
  | nil =>
    cases h
    exact Ways.refl _
  | cons p ps ih =>
    rw [makeEach] at h
    split at h
    · rename_i made hmade
      exact (ways_of_makeDirectory hmade).trans (ih h)
    · split at h
      · exact ih h
      · cases h
        exact Ways.refl _
    · cases h
      exact Ways.refl _

/-- Once directories were made one after another, the last one is there. -/
theorem isDirectory_of_makeEach {ps : List Path} {p : Path} (hp : ps.getLast? = some p)
    (h : fs.makeEach now ps = (.ok (), fs')) : fs'.isDirectory p = true := by
  induction ps generalizing fs with
  | nil => cases hp
  | cons q ps ih =>
    have hdone : ∀ made : FileSystem, made.isDirectory q = true → made.makeEach now ps = (.ok (), fs') →
        fs'.isDirectory p = true := by
      intro made hq hrest
      cases ps with
      | nil =>
        cases hp
        cases hrest
        exact hq
      | cons q' ps => exact ih (by simpa using hp) hrest
    rw [makeEach] at h
    split at h
    · rename_i made hmade
      exact hdone made (isDirectory_of_makeDirectory hmade) h
    · split at h
      · rename_i hq
        exact hdone fs hq h
      · cases h
    · cases h

theorem ways_of_makeUpwards {pending ps : List Path} {result : Except OsError Unit}
    (h : fs.makeUpwards now pending ps = (result, fs')) : Ways fs fs' := by
  induction ps generalizing pending with
  | nil => exact ways_of_makeEach h
  | cons p ps ih =>
    rw [makeUpwards] at h
    split at h
    · exact ways_of_makeEach h
    · split at h
      · rename_i made hmade
        exact (ways_of_makeDirectory hmade).trans (ways_of_makeEach h)
      · exact ih h
      · split at h
        · exact ways_of_makeEach h
        · cases h
          exact Ways.refl _
      · cases h
        exact Ways.refl _

/-- Making a directory with its parents is in nobody's way. -/
theorem ways_of_makeDirectories {p : Path} {result : Except OsError Unit}
    (h : fs.makeDirectories now p = (result, fs')) : Ways fs fs' :=
  ways_of_makeUpwards h

theorem isDirectory_of_makeUpwards {pending ps : List Path} {p : Path}
    (hp : pending.getLast? = some p) (h : fs.makeUpwards now pending ps = (.ok (), fs')) :
    fs'.isDirectory p = true := by
  induction ps generalizing pending with
  | nil => exact isDirectory_of_makeEach hp h
  | cons q ps ih =>
    rw [makeUpwards] at h
    split at h
    · exact isDirectory_of_makeEach hp h
    · split at h
      · exact isDirectory_of_makeEach hp h
      · exact ih (by rw [List.getLast?_cons, hp]; rfl) h
      · split at h
        · exact isDirectory_of_makeEach hp h
        · cases h
      · cases h

/-- There is nothing to be made for a path: it is that of a directory, or of none that could be
made. -/
def Settled (fs : FileSystem) (p : Path) : Prop :=
  (p.bytes = [] ∨ p.parent? = none) ∨ fs.isDirectory p = true

theorem Ways.settled (ways : Ways fs fs') {p : Path} (h : fs.Settled p) : fs'.Settled p :=
  h.imp_right ways.isDirectory

/-- A directory that was made with its parents is there. -/
theorem settled_of_makeDirectories {p : Path} (h : fs.makeDirectories now p = (.ok (), fs')) :
    fs'.Settled p := by
  obtain ⟨parents, hancestors⟩ := p.ancestors_eq_cons
  rw [makeDirectories, hancestors, makeUpwards] at h
  split at h
  · rename_i hnone
    exact .inl hnone
  · split at h
    · rename_i made hmade
      cases h
      exact .inr (isDirectory_of_makeDirectory hmade)
    · exact .inr (isDirectory_of_makeUpwards rfl h)
    · split at h
      · rename_i hthere
        cases h
        exact .inr hthere
      · cases h
    · cases h

/-- Where there is nothing to be made, nothing is. -/
theorem makeDirectories_of_settled {p : Path} (h : fs.Settled p) :
    fs.makeDirectories now p = (.ok (), fs) := by
  obtain ⟨parents, hancestors⟩ := p.ancestors_eq_cons
  rw [makeDirectories, hancestors, makeUpwards]
  by_cases hnone : p.bytes = [] ∨ p.parent? = none
  · rw [if_pos hnone, makeEach]
  · have hthere : fs.isDirectory p = true := h.resolve_left hnone
    rw [if_neg hnone, makeDirectory_of_isDirectory hthere]
    simp only [hthere, if_true, makeEach]

/-! ### Directories that can not be made -/

theorem isDirectory_root : fs.isDirectory ⟨[47]⟩ = true := by
  have root : fs.entryAt? [] = some (.directory fs.rootTime) := rfl
  refine isDirectory_iff.mpr ⟨[], fs.rootTime, locate_eq_ok_iff.mpr ⟨?_, ?_⟩⟩
  · exact ⟨by decide, by decide, by decide⟩
  · exact .idle root (.inl rfl) (.idle root (.inl rfl) (.here root))

/-- Where a path leads somewhere, its parent leads to a directory. -/
theorem isDirectory_of_parent? {p q : Path} {spot : Spot} (hparent : p.parent? = some q)
    (hne : q.bytes ≠ []) (h : fs.locate follow p = .ok spot) : fs.isDirectory q = true := by
  obtain ⟨q', hq, rfl⟩ := Option.map_eq_some_iff.mp hparent
  by_cases hroot : q' = [PathAlphabet.slash]
  · subst hroot
    exact isDirectory_root
  · obtain ⟨back, hparts, part, hmem, hpart⟩ := PathText.parts_of_parent? hq hne hroot
    obtain ⟨rest, hrest⟩ := PathText.prefix_of_parent? hq hne hroot
    obtain ⟨usable, leads⟩ := locate_eq_ok_iff.mp h
    have hback : ¬ IsLast back := fun hlast =>
      hpart (of_decide_eq_true (List.all_eq_true.mp hlast part hmem))
    have hstart : fs.start ⟨q'⟩ = fs.start p := by
      cases q' with
      | nil => exact absurd rfl hne
      | cons c cs => rw [start, start, Path.isAbsolute, Path.isAbsolute, ← hrest]; rfl
    have husable : Usable ⟨q'⟩ := by
      refine ⟨fun hzero => usable.noZero ?_, hne, fun hlong => usable.short ?_⟩
      · rw [← hrest]
        exact List.mem_append_left _ hzero
      · rw [← hrest, List.length_append]
        exact Nat.lt_add_right _ hlong
    change Leads fs follow maxLinks (fs.start p) (Text.split PathAlphabet.slash p.bytes) spot at leads
    rw [hparts] at leads
    obtain ⟨k, t, hfront⟩ := leads.front hback
    refine isDirectory_iff.mpr ⟨k, t, locate_eq_ok_iff.mpr ⟨husable, ?_⟩⟩
    rw [hstart]
    exact hfront

/-- There is no directory at the path, and none can be made. -/
structure Refused (fs : FileSystem) (now : Time) (p : Path) : Prop where
  notMade : ∀ made, fs.makeDirectory now p ≠ .ok made
  notThere : ¬ fs.isDirectory p = true

theorem refused_of_error {p : Path} {e : OsError} (h : fs.makeDirectory now p = .error e)
    (hthere : e = .alreadyExists → ¬ fs.isDirectory p = true) : fs.Refused now p where
  notMade made hmade := by
    rw [hmade] at h
    cases h
  notThere hdir := by
    rw [makeDirectory_of_isDirectory hdir] at h
    cases h
    exact hthere rfl hdir

/-- No directory can be made where there is none for its parent. -/
theorem Refused.child {p q : Path} (hparent : p.parent? = some q) (hne : q.bytes ≠ [])
    (h : fs.Refused now q) : fs.Refused now p where
  notMade made hmade := by
    obtain ⟨d, n, hlocate, _⟩ := makeDirectory_eq_ok hmade
    exact h.notThere (isDirectory_of_parent? hparent hne hlocate)
  notThere hdir := by
    obtain ⟨k, t, hlocate⟩ := isDirectory_iff.mp hdir
    exact h.notThere (isDirectory_of_parent? hparent hne hlocate)

/-- Making the directories of a list fails and makes none of them. -/
def Fails (fs : FileSystem) (now : Time) (ps : List Path) : Prop :=
  ∃ e, fs.makeEach now ps = (.error e, fs)

theorem Refused.fails {p : Path} (h : fs.Refused now p) (ps : List Path) : fs.Fails now (p :: ps) := by
  cases hmake : fs.makeDirectory now p with
  | ok made => exact absurd hmake (h.notMade made)
  | error e => cases e <;> simp [Fails, makeEach, hmake, h.notThere]

theorem makeEach_of_isDirectory {p : Path} (h : fs.isDirectory p = true) (ps : List Path) :
    fs.makeEach now (p :: ps) = fs.makeEach now ps := by
  rw [makeEach, makeDirectory_of_isDirectory h]
  simp only [h, if_true]

/-- A list of directories that could not be made can not be made the next time either: those before
the one that failed are there, and that one fails again. -/
theorem fails_of_makeEach {ps : List Path} {e : OsError} (h : fs.makeEach now ps = (.error e, fs')) :
    fs'.Fails now ps := by
  induction ps generalizing fs with
  | nil => cases h
  | cons p ps ih =>
    have hskip : fs'.isDirectory p = true → fs'.Fails now ps → fs'.Fails now (p :: ps) := by
      intro hdir hfails
      rw [Fails, makeEach_of_isDirectory hdir]
      exact hfails
    have h' := h
    rw [makeEach] at h
    split at h
    · rename_i made hmade
      exact hskip ((ways_of_makeEach h).isDirectory (isDirectory_of_makeDirectory hmade)) (ih h)
    · split at h
      · rename_i hdir
        exact hskip ((ways_of_makeEach h).isDirectory hdir) (ih h)
      · cases h
        exact ⟨_, h'⟩
    · cases h
      exact ⟨_, h'⟩

theorem makeUpwards_of_isDirectory {p : Path} (hstop : ¬ (p.bytes = [] ∨ p.parent? = none))
    (h : fs.isDirectory p = true) (pending ps : List Path) :
    fs.makeUpwards now pending (p :: ps) = fs.makeEach now pending := by
  rw [makeUpwards, if_neg hstop, makeDirectory_of_isDirectory h]
  simp only [h, if_true]

theorem makeUpwards_of_refused {p : Path} (hstop : ¬ (p.bytes = [] ∨ p.parent? = none))
    (h : fs.Refused now p) (pending ps : List Path) :
    (∃ e, fs.makeUpwards now pending (p :: ps) = (.error e, fs)) ∨
      fs.makeUpwards now pending (p :: ps) = fs.makeUpwards now (p :: pending) ps := by
  rw [makeUpwards, if_neg hstop]
  cases hmake : fs.makeDirectory now p with
  | ok made => exact absurd hmake (h.notMade made)
  | error e => cases e <;> simp [h.notThere]

/-- Trying once more to make a directory upwards from those that are pending fails again and makes
nothing more, and so does making the pending ones. -/
theorem makeUpwards_of_failed {pending ps : List Path} {e : OsError}
    (chain : (pending.head?.toList ++ ps).IsChain fun a b => a.parent? = some b)
    (h : fs.makeUpwards now pending ps = (.error e, fs')) :
    (pending ≠ [] → fs'.Fails now pending) ∧
      ∃ e', fs'.makeUpwards now pending ps = (.error e', fs') := by
  induction ps generalizing pending with
  | nil =>
    have hfails := fails_of_makeEach h
    exact ⟨fun _ => hfails, hfails⟩
  | cons p ps ih =>
    by_cases hstop : p.bytes = [] ∨ p.parent? = none
    · rw [makeUpwards, if_pos hstop] at h ⊢
      have hfails := fails_of_makeEach h
      exact ⟨fun _ => hfails, hfails⟩
    · -- The first one that is pending has `p` for its parent and is refused with it.
      have hlower : fs'.Refused now p → pending ≠ [] → fs'.Fails now pending := by
        intro hrefused hne
        cases pending with
        | nil => exact absurd rfl hne
        | cons b pending =>
          have hparent : b.parent? = some p := (List.isChain_cons_cons.mp chain).1
          exact (hrefused.child hparent fun hempty => hstop (.inl hempty)).fails pending
      have hdone : fs'.isDirectory p = true → fs'.Fails now pending →
          (pending ≠ [] → fs'.Fails now pending) ∧
            ∃ e', fs'.makeUpwards now pending (p :: ps) = (.error e', fs') := by
        intro hdir hfails
        rw [makeUpwards_of_isDirectory hstop hdir]
        exact ⟨fun _ => hfails, hfails⟩
      have h' := h
      rw [makeUpwards, if_neg hstop] at h
      split at h
      · rename_i made hmade
        have hdir := (ways_of_makeEach h).isDirectory (isDirectory_of_makeDirectory hmade)
        exact hdone hdir (fails_of_makeEach h)
      · have hchain : ((p :: pending).head?.toList ++ ps).IsChain fun a b => a.parent? = some b := by
          cases pending with
          | nil => exact chain
          | cons b pending => exact (List.isChain_cons_cons.mp chain).2
        obtain ⟨hfails, hagain⟩ := ih hchain h
        have hfails := hfails (List.cons_ne_nil _ _)
        by_cases hdir : fs'.isDirectory p = true
        · rw [Fails, makeEach_of_isDirectory hdir] at hfails
          exact hdone hdir hfails
        · have hrefused : fs'.Refused now p := by
            refine ⟨fun made hmade => ?_, hdir⟩
            obtain ⟨e', hfails⟩ := hfails
            rw [makeEach, hmade] at hfails
            exact hdir ((ways_of_makeEach hfails).isDirectory (isDirectory_of_makeDirectory hmade))
          refine ⟨hlower hrefused, ?_⟩
          rcases makeUpwards_of_refused hstop hrefused pending ps with hrefuse | hup
          · exact hrefuse
          · rw [hup]
            exact hagain
      · split at h
        · rename_i hdir
          exact hdone ((ways_of_makeEach h).isDirectory hdir) (fails_of_makeEach h)
        · rename_i hmade hdir
          cases h
          exact ⟨hlower (refused_of_error hmade fun _ => hdir), _, h'⟩
      · rename_i hother hmade
        cases h
        exact ⟨hlower (refused_of_error hmade fun hexists => absurd hexists hother), _, h'⟩

/-- Where a directory could not be made with its parents, it can not be made the next time either, and
nothing more is made. -/
theorem makeDirectories_of_failed {p : Path} {e : OsError}
    (h : fs.makeDirectories now p = (.error e, fs')) :
    ∃ e', fs'.makeDirectories now p = (.error e', fs') :=
  (makeUpwards_of_failed p.isChain_ancestors h).2

/-! ### Writing files -/

section Replaced

variable {l : Location} {content : Bytes} {mode : Nat} {time : Time}

/-- A file is not at the root, so what is put in its place is found there and nowhere else. -/
theorem entryAt?_put_of_file (entry : fs.entryAt? l = some (.file content mode time)) (e : Entry)
    (k : Location) : (fs.put l e).entryAt? k = if k = l then some e else fs.entryAt? k := by
  refine entryAt?_put fs ?_ e k
  rintro rfl
  cases entry

/-- What differs from a file system in a file only has its directories and links. -/
theorem ways_of_file_at (workingDirectory : fs'.workingDirectory = fs.workingDirectory)
    (entry : fs.entryAt? l = some (.file content mode time))
    (same : ∀ k, k ≠ l → fs'.entryAt? k = fs.entryAt? k) : Ways fs fs' := by
  have hother : ∀ k e, fs.entryAt? k = some e → e ≠ .file content mode time →
      fs'.entryAt? k = some e := by
    intro k e hk hne
    refine (same k ?_).trans hk
    rintro rfl
    rw [entry] at hk
    exact hne (Option.some.inj hk).symm
  refine ⟨workingDirectory, fun k t hk => ⟨t, hother k _ hk ?_⟩, fun k target hk => hother k _ hk ?_⟩
  · exact Entry.noConfusion
  · exact Entry.noConfusion

end Replaced

/-- A file that is written is in nobody's way. -/
theorem ways_of_write {p : Path} {content : Bytes} {time : Time}
    (h : fs.write now p content time = .ok fs') : Ways fs fs' := by
  rw [write] at h
  split at h
  · rename_i hlocate
    cases h
    have entry := entryAt?_of_locate hlocate
    exact ways_of_file_at rfl entry fun k hk => (entryAt?_put_of_file entry _ k).trans (if_neg hk)
  · cases h
  · rename_i hlocate
    split at h
    · cases h
    · cases h
      obtain ⟨⟨t, directory⟩, missing⟩ := (locate_eq_ok_iff.mp hlocate).2.missing_of_free
      exact ways_add _ directory missing
  · cases h

theorem ways_of_writeWithParents (fs : FileSystem) (now : Time) (p : Path) (content : Bytes)
    (time : Time) : Ways fs (fs.writeWithParents now p content time).2 := by
  have hparents : Ways fs ((p.parent?.map (fs.makeDirectories now)).getD (.ok (), fs)).2 := by
    cases p.parent? with
    | none => exact Ways.refl fs
    | some q => exact ways_of_makeDirectories rfl
  rw [writeWithParents]
  generalize (p.parent?.map (fs.makeDirectories now)).getD (.ok (), fs) = parents at hparents ⊢
  obtain ⟨made, after⟩ := parents
  cases made with
  | error e => exact hparents
  | ok made =>
    cases hwrite : after.write now p content time with
    | error e => simpa only [hwrite] using hparents
    | ok written => simpa only [hwrite] using hparents.trans (ways_of_write hwrite)

end FileSystem

/-! ### The cache directory -/

section CacheDirectory

variable {σ : Type} {cacheDir : Path} {w : World σ}

theorem makeCacheDir_outcome (cacheDir : Path) (w : World σ) :
    (makeCacheDir cacheDir w).value = (w.files.makeDirectories w.clock cacheDir).1.mapError
        (fun e => ⟨.createCacheDir cacheDir, [.os e]⟩) ∧
      (makeCacheDir cacheDir w).world =
        { w with files := (w.files.makeDirectories w.clock cacheDir).2 } :=
  ⟨rfl, rfl⟩

theorem makeCacheDir_of_settled (h : w.files.Settled cacheDir) :
    (makeCacheDir cacheDir w).value = .ok () ∧ (makeCacheDir cacheDir w).world = w := by
  obtain ⟨hvalue, hworld⟩ := makeCacheDir_outcome cacheDir w
  rw [hvalue, hworld, FileSystem.makeDirectories_of_settled h]
  exact ⟨rfl, rfl⟩

theorem settled_of_makeCacheDir (h : (makeCacheDir cacheDir w).value = .ok ()) :
    (makeCacheDir cacheDir w).world.files.Settled cacheDir := by
  obtain ⟨hvalue, hworld⟩ := makeCacheDir_outcome cacheDir w
  rw [hvalue] at h
  rw [hworld]
  cases hmake : w.files.makeDirectories w.clock cacheDir with
  | mk result fs =>
    rw [hmake] at h
    cases result with
    | error e => cases h
    | ok made => exact FileSystem.settled_of_makeDirectories hmake

/-- A cache directory that could not be made can not be made the next time either. -/
theorem makeCacheDir_of_failed {e : Failure} (h : (makeCacheDir cacheDir w).value = .error e) :
    let again := makeCacheDir cacheDir (makeCacheDir cacheDir w).world
    (∃ e', again.value = .error e') ∧ again.world = (makeCacheDir cacheDir w).world := by
  intro again
  obtain ⟨hvalue, hworld⟩ := makeCacheDir_outcome cacheDir w
  obtain ⟨hvalue', hworld'⟩ := makeCacheDir_outcome cacheDir (makeCacheDir cacheDir w).world
  rw [hvalue] at h
  rw [hworld', hvalue', hworld]
  cases hmake : w.files.makeDirectories w.clock cacheDir with
  | mk result fs =>
    rw [hmake] at h
    cases result with
    | ok made => cases h
    | error e =>
      obtain ⟨e', hagain⟩ := FileSystem.makeDirectories_of_failed hmake
      rw [hagain]
      exact ⟨⟨_, rfl⟩, rfl⟩

end CacheDirectory

end KeywordDocs
