import KeywordDocs.Proofs.Calls
import KeywordDocs.Proofs.Freshness
import KeywordDocs.Proofs.Filling

/-!
# What calls change

A call of a generator that writes at most its libdoc changes one entry of the file system
(`FileSystem.WritesAt`); a new entry also changes the time of its directory. So a path that leads to
another entry finds there what it found before, or it is the path of that directory
(`WritesAt.find_eq`). The calls of a run follow each other (`Generation.Chain`), so that all of this
holds of a run when it holds of its calls (`Chain.find_eq`).
-/

namespace KeywordDocs

/-- A file, whatever it holds. -/
def Entry.IsFile : Entry → Prop
  | .file .. => True
  | _ => False

theorem Entry.IsFile.sameKind {e e' : Entry} (h : e.IsFile) (h' : e'.IsFile) : e.SameKind e' := by
  cases e <;> cases e' <;> trivial

theorem Entry.SameKind.refl (e : Entry) : e.SameKind e := by
  cases e <;> trivial

namespace FileSystem

variable {fs fs' : FileSystem} {p q : Path} {k l : Location} {e : Entry}

/-! ### One file -/

/-- A file was written at a location, a new one or in the place of a file. Nothing else has changed,
save for the time of the directory of a new file. -/
structure WritesFile (l : Location) (fs fs' : FileSystem) : Prop where
  workingDirectory : fs'.workingDirectory = fs.workingDirectory
  old : ∀ e, fs.entryAt? l = some e → e.IsFile
  new : ∃ e, fs'.entryAt? l = some e ∧ e.IsFile
  holder : fs.entryAt? l = none → ∃ t t', fs.entryAt? l.dropLast = some (.directory t) ∧
    fs'.entryAt? l.dropLast = some (.directory t')
  other : ∀ k, k ≠ l → (fs.entryAt? l = none → k ≠ l.dropLast) → fs'.entryAt? k = fs.entryAt? k

namespace WritesFile

/-- An entry is the file, the directory that got the file, or one that was left alone. -/
theorem cases_entry (h : WritesFile l fs fs') (k : Location) :
    k = l ∨ (fs.entryAt? l = none ∧ k = l.dropLast) ∨ fs'.entryAt? k = fs.entryAt? k := by
  by_cases hl : k = l
  · exact .inl hl
  · by_cases hd : fs.entryAt? l = none ∧ k = l.dropLast
    · exact .inr (.inl hd)
    · exact .inr (.inr (h.other k hl fun hnone heq => hd ⟨hnone, heq⟩))

/-- Each entry is still there, and of the same kind. -/
theorem entry (h : WritesFile l fs fs') (he : fs.entryAt? k = some e) :
    ∃ e', fs'.entryAt? k = some e' ∧ e.SameKind e' := by
  rcases h.cases_entry k with rfl | ⟨hnone, rfl⟩ | hsame
  · obtain ⟨e', he', hfile⟩ := h.new
    exact ⟨e', he', (h.old e he).sameKind hfile⟩
  · obtain ⟨t, t', hd, hd'⟩ := h.holder hnone
    rw [hd] at he
    cases he
    exact ⟨_, hd', trivial⟩
  · exact ⟨e, hsame.trans he, .refl e⟩

/-- Each entry but the file was there before, and of the same kind. -/
theorem entry_before (h : WritesFile l fs fs') (hk : k ≠ l) (he : fs'.entryAt? k = some e) :
    ∃ e', fs.entryAt? k = some e' ∧ e.SameKind e' := by
  rcases h.cases_entry k with rfl | ⟨hnone, rfl⟩ | hsame
  · exact absurd rfl hk
  · obtain ⟨t, t', hd, hd'⟩ := h.holder hnone
    rw [hd'] at he
    cases he
    exact ⟨_, hd, trivial⟩
  · exact ⟨e, hsame.symm.trans he, .refl e⟩

theorem link_iff (h : WritesFile l fs fs') {target : Path} :
    fs'.entryAt? k = some (.link target) ↔ fs.entryAt? k = some (.link target) := by
  rcases h.cases_entry k with rfl | ⟨hnone, rfl⟩ | hsame
  · obtain ⟨e', he', hfile⟩ := h.new
    refine iff_of_false (fun hlink => ?_) fun hlink => h.old _ hlink
    rw [hlink] at he'
    cases he'
    exact hfile
  · obtain ⟨t, t', hd, hd'⟩ := h.holder hnone
    rw [hd, hd']
    exact iff_of_false (fun hlink => nomatch hlink) fun hlink => nomatch hlink
  · rw [hsame]

theorem ways (h : WritesFile l fs fs') : Ways fs fs' where
  workingDirectory := h.workingDirectory
  directory k t hk := by
    obtain ⟨e', he', kind⟩ := h.entry hk
    cases e' with
    | directory t' => exact ⟨t', he'⟩
    | file => exact kind.elim
    | link => exact kind.elim
  link _ _ hk := h.link_iff.mpr hk

theorem ways_before (h : WritesFile l fs fs') : Ways fs' fs where
  workingDirectory := h.workingDirectory.symm
  directory k t hk := by
    have hne : k ≠ l := by
      rintro rfl
      obtain ⟨e', he', hfile⟩ := h.new
      rw [hk] at he'
      cases he'
      exact hfile
    obtain ⟨e', he', kind⟩ := h.entry_before hne hk
    cases e' with
    | directory t' => exact ⟨t', he'⟩
    | file => exact kind.elim
    | link => exact kind.elim
  link _ _ hk := h.link_iff.mp hk

/-- A path leads where it led. -/
theorem locate (h : WritesFile l fs fs') (hq : fs.locate true q = .ok (.taken k e)) :
    ∃ e', fs'.locate true q = .ok (.taken k e') := by
  obtain ⟨e', he', kind⟩ := h.entry (entryAt?_of_locate hq)
  exact ⟨e', h.ways.locate hq he' kind⟩

/-- A path that does not lead to the file led where it leads. -/
theorem locate_before (h : WritesFile l fs fs') (hk : k ≠ l)
    (hq : fs'.locate true q = .ok (.taken k e)) : ∃ e', fs.locate true q = .ok (.taken k e') := by
  obtain ⟨e', he', kind⟩ := h.entry_before hk (entryAt?_of_locate hq)
  exact ⟨e', h.ways_before.locate hq he' kind⟩

/-- The path of a new file led nowhere: what it led to would be what it leads to now. -/
theorem missing_before (h : WritesFile l fs fs') (hnew : fs.entryAt? l = none)
    (hp : fs'.locate true p = .ok (.taken l e)) : fs.pathExists p = false := by
  rw [Bool.eq_false_iff]
  intro hexists
  obtain ⟨k, x, hbefore⟩ := pathExists_iff.mp hexists
  obtain ⟨x', hafter⟩ := h.locate hbefore
  rw [hp] at hafter
  obtain ⟨rfl, _⟩ := Spot.taken.inj (Except.ok.inj hafter)
  rw [entryAt?_of_locate hbefore] at hnew
  cases hnew

end WritesFile

/-! ### At most one path -/

theorem find_of_locate (h : fs.locate true p = .ok (.taken k e)) : fs.find p = .ok e := by
  rw [find, h]

theorem find_of_missing (h : ¬ fs.pathExists p = true) : (fs.find p).toOption = none := by
  rw [pathExists] at h
  cases hfind : fs.find p with
  | ok e => rw [hfind] at h; exact absurd rfl h
  | error e => rfl

/-- The location of the entry that a path leads to. -/
def location? (fs : FileSystem) (p : Path) : Option Location :=
  match fs.locate true p with
  | .ok (.taken l _) => some l
  | _ => none

theorem location?_eq_some_iff :
    fs.location? p = some l ↔ ∃ e, fs.locate true p = .ok (.taken l e) := by
  unfold location?
  constructor
  · intro h
    split at h
    · rename_i hlocate
      cases h
      exact ⟨_, hlocate⟩
    · cases h
  · rintro ⟨e, hlocate⟩
    rw [hlocate]

/-- Both paths lead to one entry. -/
def Meet (fs : FileSystem) (p q : Path) : Prop :=
  fs.location? p ≠ none ∧ fs.location? p = fs.location? q

instance (fs : FileSystem) (p q : Path) : Decidable (fs.Meet p q) := inferInstanceAs (Decidable (_ ∧ _))

theorem meet_iff : fs.Meet p q ↔ ∃ l, fs.location? p = some l ∧ fs.location? q = some l := by
  constructor
  · rintro ⟨hsome, heq⟩
    obtain ⟨l, hl⟩ := Option.ne_none_iff_exists'.mp hsome
    exact ⟨l, hl, heq.symm.trans hl⟩
  · rintro ⟨l, hp, hq⟩
    exact ⟨by rw [hp]; exact Option.some_ne_none l, hp.trans hq.symm⟩

/-- At most what the path leads to was written: a file, new or in the place of a file. -/
def WritesAt (p : Path) (fs fs' : FileSystem) : Prop :=
  Same fs fs' ∨ ∃ l e, fs'.locate true p = .ok (.taken l e) ∧ WritesFile l fs fs'

/-- A path of a directory in which another path got a new file, so that the time of the directory
changed. -/
structure Gains (q p : Path) (fs fs' : FileSystem) : Prop where
  missing : fs.pathExists p = false
  holder : ∃ l e t, fs'.locate true p = .ok (.taken l e) ∧
    fs'.locate true q = .ok (.taken l.dropLast (.directory t))
  time : fs'.modified? q ≠ fs.modified? q

namespace WritesAt

theorem ways (h : WritesAt p fs fs') : Ways fs fs' := by
  rcases h with same | ⟨l, e, _, h⟩
  · exact ⟨same.workingDirectory, fun k t hk => ⟨t, (same.entry k).trans hk⟩,
      fun k _ hk => (same.entry k).trans hk⟩
  · exact h.ways

theorem ways_before (h : WritesAt p fs fs') : Ways fs' fs := by
  rcases h with same | ⟨l, e, _, h⟩
  · exact ⟨same.workingDirectory.symm, fun k t hk => ⟨t, (same.entry k).symm.trans hk⟩,
      fun k _ hk => (same.entry k).symm.trans hk⟩
  · exact h.ways_before

/-- The same paths lead to directories. -/
theorem isDirectory_iff (h : WritesAt p fs fs') : fs'.isDirectory q = true ↔ fs.isDirectory q = true :=
  ⟨h.ways_before.isDirectory, h.ways.isDirectory⟩

/-- A path leads where it led. -/
theorem locate (h : WritesAt p fs fs') (hq : fs.locate true q = .ok (.taken k e)) :
    ∃ e', fs'.locate true q = .ok (.taken k e') := by
  rcases h with same | ⟨l, e, _, h⟩
  · exact ⟨_, (same.locate true q).trans hq⟩
  · exact h.locate hq

theorem pathExists (h : WritesAt p fs fs') (hq : fs.pathExists q = true) :
    fs'.pathExists q = true := by
  obtain ⟨k, e, hlocate⟩ := pathExists_iff.mp hq
  obtain ⟨e', hlocate'⟩ := h.locate hlocate
  exact pathExists_iff.mpr ⟨k, e', hlocate'⟩

theorem location? (h : WritesAt p fs fs') (hq : fs.location? q = some k) :
    fs'.location? q = some k := by
  obtain ⟨e, hlocate⟩ := location?_eq_some_iff.mp hq
  exact location?_eq_some_iff.mpr (h.locate hlocate)

/-- Paths that led to one entry still do. -/
theorem meet {p' : Path} (h : WritesAt p fs fs') (hq : fs.Meet q p') : fs'.Meet q p' := by
  obtain ⟨k, hk, hk'⟩ := meet_iff.mp hq
  exact meet_iff.mpr ⟨k, h.location? hk, h.location? hk'⟩

/-- A path that leads elsewhere finds what it found, unless it is that of the directory of a new file. -/
theorem find_eq (h : WritesAt p fs fs') (apart : ¬ fs'.Meet q p) :
    (fs'.find q).toOption = (fs.find q).toOption ∨ Gains q p fs fs' ∧ fs.isDirectory q = true := by
  by_cases hexists : fs'.pathExists q = true
  · rcases h with same | ⟨l, file, hp, h⟩
    · exact .inl (by rw [find, find, same.locate])
    · obtain ⟨k, e, hq⟩ := pathExists_iff.mp hexists
      have hk : k ≠ l := by
        rintro rfl
        exact apart (meet_iff.mpr
          ⟨k, location?_eq_some_iff.mpr ⟨e, hq⟩, location?_eq_some_iff.mpr ⟨file, hp⟩⟩)
      obtain ⟨e', hq'⟩ := h.locate_before hk hq
      have he := entryAt?_of_locate hq
      have he' := entryAt?_of_locate hq'
      by_cases heq : e = e'
      · exact .inl (by rw [find_of_locate hq, find_of_locate hq', heq])
      · rcases h.cases_entry k with rfl | ⟨hnew, rfl⟩ | hsame
        · exact absurd rfl hk
        · obtain ⟨t, t', hd, hd'⟩ := h.holder hnew
          obtain rfl := Option.some.inj (he'.symm.trans hd)
          obtain rfl := Option.some.inj (he.symm.trans hd')
          have htime : fs'.modified? q ≠ fs.modified? q := by
            rw [modified?, modified?, find_of_locate hq, find_of_locate hq']
            intro htime
            exact heq (congrArg Entry.directory (Option.some.inj htime))
          exact .inr ⟨⟨h.missing_before hnew hp, ⟨l, file, t', hp, hq⟩, htime⟩,
            FileSystem.isDirectory_iff.mpr ⟨_, t, hq'⟩⟩
        · rw [he, he'] at hsame
          exact absurd (Option.some.inj hsame) heq
  · have hbefore : ¬ fs.pathExists q = true := fun hq => hexists (h.pathExists hq)
    exact .inl (by rw [find_of_missing hexists, find_of_missing hbefore])

end WritesAt

section Filled

variable (now : Time) (content : Bytes) (time : Time)

theorem writesFile_filled_of_file {old : Bytes} {mode : Nat} {t : Time}
    (h : fs.locate true p = .ok (.taken l (.file old mode t))) :
    WritesFile l fs (fs.filled now p (some (content, time))) := by
  have hentry : ∀ k, (fs.filled now p (some (content, time))).entryAt? k =
      (if k = l then some (.file content mode time) else none).or (fs.entryAt? k) := by
    intro k
    rw [entryAt?_filled]
    simp only [placed?, extended?, h, reduceCtorEq, if_false]
  have hold := entryAt?_of_locate h
  refine ⟨(fs.ways_filled now p _).workingDirectory, fun e he => ?_, ⟨.file content mode time, ?_, trivial⟩,
    fun hnone => ?_, fun k hk _ => ?_⟩
  · rw [hold] at he
    cases he
    trivial
  · rw [hentry, if_pos rfl, Option.some_or]
  · rw [hold] at hnone
    cases hnone
  · rw [hentry, if_neg hk, Option.none_or]

theorem writesFile_filled_of_free {d : Location} {n : Bytes} (h : fs.locate true p = .ok (.free d n))
    (hslash : p.bytes.getLast? ≠ some 47) :
    WritesFile (d ++ [n]) fs (fs.filled now p (some (content, time))) := by
  have hentry : ∀ k, (fs.filled now p (some (content, time))).entryAt? k =
      (if k = d ++ [n] then some (.file content plainMode time) else none).or
        (if d = k then some (.directory now) else fs.entryAt? k) := by
    intro k
    rw [entryAt?_filled]
    simp only [placed?, extended?, h, hslash, if_false, Option.some.injEq]
  obtain ⟨⟨t, hd⟩, hmissing⟩ := (locate_eq_ok_iff.mp h).2.missing_of_free
  have hne : d ≠ d ++ [n] := by simp
  refine ⟨(fs.ways_filled now p _).workingDirectory, fun e he => ?_,
    ⟨.file content plainMode time, ?_, trivial⟩, fun _ => ⟨t, now, ?_, ?_⟩, fun k hk hkd => ?_⟩
  · rw [hmissing] at he
    cases he
  · rw [hentry, if_pos rfl, Option.some_or]
  · rw [List.dropLast_concat, hd]
  · rw [List.dropLast_concat, hentry, if_neg hne, if_pos rfl, Option.none_or]
  · rw [List.dropLast_concat] at hkd
    rw [hentry, if_neg hk, if_neg (hkd hmissing).symm, Option.none_or]

end Filled

/-- Writing a file writes at most that, if the file is found where it was to be written. -/
theorem writesAt_filled {now : Time} {file : Option (Bytes × Time)}
    (h : (fs.filled now p file).pathExists p = true) : WritesAt p fs (fs.filled now p file) := by
  obtain ⟨l, e, hl⟩ := pathExists_iff.mp h
  by_cases hnothing : fs.filled now p file = fs
  · rw [hnothing]
    exact .inl (.refl fs)
  · cases file with
    | none => exact absurd rfl hnothing
    | some file =>
      obtain ⟨content, time⟩ := file
      cases hlocate : fs.locate true p with
      | error x => exact absurd (filled_of_not_located (by simp [hlocate]) _ _) hnothing
      | ok spot =>
        cases spot with
        | taken k x =>
          cases x with
          | file old mode t =>
            have writes := writesFile_filled_of_file now content time hlocate
            obtain ⟨x, hx⟩ := writes.locate hlocate
            exact .inr ⟨k, x, hx, writes⟩
          | directory t => simp [filled, write, hlocate, Except.toOption] at hnothing
          | link target => simp [filled, write, hlocate, Except.toOption] at hnothing
        | free d n =>
          by_cases hslash : p.bytes.getLast? = some 47
          · simp [filled, write, hlocate, hslash, Except.toOption] at hnothing
          · have writes := writesFile_filled_of_free now content time hlocate hslash
            by_cases hnew : l = d ++ [n]
            · subst hnew
              exact .inr ⟨_, e, hl, writes⟩
            · -- Nothing else is new, and before the path led nowhere.
              obtain ⟨x, hx⟩ := writes.locate_before hnew hl
              rw [hlocate] at hx
              cases hx

end FileSystem

/-! ### Calls that follow each other -/

namespace Generation

variable {fs fs' : FileSystem} {calls : List Generation} {q : Path}

/-- The path of the libdoc that a call is to write. -/
def libdoc (c : Generation) : Path := artifactPath c.cacheDir c.cacheKey

/-- The call writes at most its libdoc. -/
def Sparing (c : Generation) : Prop := FileSystem.WritesAt c.libdoc c.before c.after

/-- Calls that follow each other from one file system to another: nothing else changes the files. -/
inductive Chain (fs : FileSystem) : List Generation → FileSystem → Prop
  | nil : Chain fs [] fs
  | concat {calls : List Generation} {c : Generation} (before : Chain fs calls c.before) :
      Chain fs (calls ++ [c]) c.after

namespace Chain

/-- What each call keeps, all of them keep. -/
theorem keeps (chain : Chain fs calls fs') (P : FileSystem → Prop)
    (h : ∀ c ∈ calls, P c.before → P c.after) (start : P fs) : P fs' := by
  induction chain with
  | nil => exact start
  | @concat calls c _ ih =>
    have hbefore := ih fun c hc => h c (List.mem_append_left _ hc)
    exact h c (List.mem_append_right _ List.mem_cons_self) hbefore

variable (chain : Chain fs calls fs') (sparing : ∀ c ∈ calls, c.Sparing)
include chain sparing

theorem isDirectory_iff : fs'.isDirectory q = true ↔ fs.isDirectory q = true :=
  chain.keeps (fun x => x.isDirectory q = true ↔ fs.isDirectory q = true)
    (fun c hc hbefore => (sparing c hc).isDirectory_iff.trans hbefore) Iff.rfl

/-- Nothing is removed. -/
theorem pathExists (hq : fs.pathExists q = true) : fs'.pathExists q = true :=
  chain.keeps (fun x => x.pathExists q = true) (fun c hc => (sparing c hc).pathExists) hq

/-- A path that leads to no libdoc of the calls finds what it found before them, or it leads to a
directory in which a call put a new libdoc. -/
theorem find_eq (apart : ∀ c ∈ calls, ¬ fs'.Meet q c.libdoc) :
    (fs'.find q).toOption = (fs.find q).toOption ∨
      (∃ c ∈ calls, FileSystem.Gains q c.libdoc c.before c.after) ∧
        fs.isDirectory q = true ∧ fs'.isDirectory q = true := by
  induction chain with
  | nil => exact .inl rfl
  | @concat calls c chain ih =>
    have hsparing : ∀ c ∈ calls, c.Sparing := fun c hc => sparing c (List.mem_append_left _ hc)
    have hlast : c.Sparing := sparing c (List.mem_append_right _ List.mem_cons_self)
    have hbefore := ih hsparing fun c' hc' hmeet =>
      apart c' (List.mem_append_left _ hc') (hlast.meet hmeet)
    rcases hbefore with hsame | ⟨⟨c', hc', gains⟩, hstart, hdir⟩
    · rcases hlast.find_eq (apart c (List.mem_append_right _ List.mem_cons_self)) with
        hsame' | ⟨gains, hdir⟩
      · exact .inl (hsame'.trans hsame)
      · exact .inr ⟨⟨c, List.mem_append_right _ List.mem_cons_self, gains⟩,
          (chain.isDirectory_iff hsparing).mp hdir, hlast.isDirectory_iff.mpr hdir⟩
    · exact .inr ⟨⟨c', List.mem_append_left _ hc', gains⟩, hstart, hlast.isDirectory_iff.mpr hdir⟩

end Chain

end Generation

end KeywordDocs
