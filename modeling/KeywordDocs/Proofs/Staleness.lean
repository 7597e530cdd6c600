import KeywordDocs.Proofs.Freshness
import KeywordDocs.Proofs.Processing

/-!
# Libdocs that are rejected

A libdoc that is there is rejected when its source was changed after it (`FileSystem.Outdates`). But a
time that can not be told counts as the epoch, and the comparison does not know the difference: it may
come out against a libdoc whose source nobody knows (`FileSystem.Misjudges`). `run_by_times` says that
there is no third reason, and that a libdoc without a source is reused exactly if it is not from before
the epoch.
-/

namespace KeywordDocs

namespace FileSystem

variable {fs : FileSystem} {source : Option Path} {libdoc : Path}

/-- The source is known and can be looked at, and it was changed after the libdoc. -/
def Outdates (fs : FileSystem) (source : Option Path) (libdoc : Path) : Prop :=
  ∃ s changed written, source = some s ∧ fs.modified? s = some changed ∧
    fs.modified? libdoc = some written ∧ written < changed

/-- One of the two times can not be told, and with the epoch in its place the source is the later one. -/
def Misjudges (fs : FileSystem) (source : Option Path) (libdoc : Path) : Prop :=
  (source.bind fs.modified? = none ∧ fs.changed (some libdoc) < Time.epoch) ∨
    (fs.modified? libdoc = none ∧ Time.epoch < fs.changed source)

theorem changed_of_unknown (h : source.bind fs.modified? = none) : fs.changed source = Time.epoch := by
  rw [changed, h, Option.getD_none]

theorem changed_of_known {changed : Time} (h : source.bind fs.modified? = some changed) :
    fs.changed source = changed := by
  rw [FileSystem.changed, h, Option.getD_some]

/-- Where the time of a source can not be told, the source outdates nothing. -/
theorem not_outdates_of_unknown (h : source.bind fs.modified? = none) :
    ¬ fs.Outdates source libdoc := by
  rintro ⟨s, changed, written, rfl, hchanged, _⟩
  rw [Option.bind_some, hchanged] at h
  cases h

/-- The source counts as the later one if it is, or if a time is missing. -/
theorem changed_lt_iff :
    fs.changed (some libdoc) < fs.changed source ↔
      fs.Outdates source libdoc ∨ fs.Misjudges source libdoc := by
  cases hsource : source.bind fs.modified? with
  | none =>
    rw [changed_of_unknown hsource, or_iff_right (not_outdates_of_unknown hsource), Misjudges,
      changed_of_unknown hsource]
    simp [hsource]
  | some changed =>
    obtain ⟨s, rfl, hchanged⟩ := Option.bind_eq_some_iff.mp hsource
    rw [changed_of_known hsource]
    cases hlibdoc : fs.modified? libdoc with
    | none =>
      have hnot : ¬ fs.Outdates (some s) libdoc := by
        rintro ⟨_, _, written, _, _, hwritten, _⟩
        rw [hlibdoc] at hwritten
        cases hwritten
      have hepoch : fs.changed (some libdoc) = Time.epoch := changed_of_unknown hlibdoc
      rw [hepoch, or_iff_right hnot, Misjudges, changed_of_known hsource]
      simp [hsource, hlibdoc]
    | some written =>
      have hnot : ¬ fs.Misjudges (some s) libdoc := by
        rintro (⟨hnone, _⟩ | ⟨hnone, _⟩)
        · rw [hsource] at hnone
          cases hnone
        · rw [hlibdoc] at hnone
          cases hnone
      have hwritten : fs.changed (some libdoc) = written := changed_of_known hlibdoc
      rw [hwritten, or_iff_left hnot]
      constructor
      · intro hlater
        exact ⟨s, changed, written, rfl, hchanged, hlibdoc, hlater⟩
      · rintro ⟨_, _, _, ⟨⟩, hchanged', hwritten, hlater⟩
        rw [hchanged] at hchanged'
        rw [hlibdoc] at hwritten
        cases hchanged'
        cases hwritten
        exact hlater

/-- A libdoc whose time can be told is misjudged if it is from before the epoch and nobody can tell the
time of its source. -/
theorem misjudges_iff_of_known {written : Time} (h : fs.modified? libdoc = some written) :
    fs.Misjudges source libdoc ↔ source.bind fs.modified? = none ∧ written < Time.epoch := by
  have hwritten : fs.changed (some libdoc) = written := changed_of_known h
  rw [Misjudges, hwritten, h]
  simp

theorem pathExists_of_modified? {p : Path} {time : Time} (h : fs.modified? p = some time) :
    fs.pathExists p = true := by
  rw [modified?] at h
  rw [pathExists]
  cases hfind : fs.find p with
  | ok e => rfl
  | error e =>
    rw [hfind] at h
    cases h

end FileSystem

namespace CacheCheck

open FileSystem

variable {σ : Type}

/-- Logging that a libdoc is too old does not change what is found. -/
theorem value_run (cacheDir : Path) (key : String) (source : Option Path) (w : World σ) :
    (run cacheDir key source w).value = look w.files cacheDir key source := by
  by_cases hstale : look w.files cacheDir key source = .stale <;> simp [run, hstale]

section Look

variable {fs : FileSystem} {cacheDir : Path} {key : String} {source : Option Path}

theorem look_eq_missing_iff :
    look fs cacheDir key source = .missing ↔ fs.pathExists (artifactPath cacheDir key) = false := by
  unfold look
  dsimp only
  by_cases hexists : fs.pathExists (artifactPath cacheDir key) = true
  · by_cases hlater : fs.changed (some (artifactPath cacheDir key)) < fs.changed source <;>
      simp [hexists, hlater]
  · simp [hexists]

theorem look_eq_stale_iff :
    look fs cacheDir key source = .stale ↔
      fs.pathExists (artifactPath cacheDir key) = true ∧
        (fs.Outdates source (artifactPath cacheDir key) ∨
          fs.Misjudges source (artifactPath cacheDir key)) := by
  rw [← changed_lt_iff]
  unfold look
  dsimp only
  by_cases hexists : fs.pathExists (artifactPath cacheDir key) = true
  · by_cases hlater : fs.changed (some (artifactPath cacheDir key)) < fs.changed source <;>
      simp [hexists, hlater]
  · simp [hexists]

/-- What is neither missing nor stale is a hit, at the path of the key. -/
theorem look_eq_hit_iff_not {path : Path} :
    look fs cacheDir key source = .hit path ↔
      path = artifactPath cacheDir key ∧ look fs cacheDir key source ≠ .missing ∧
        look fs cacheDir key source ≠ .stale := by
  constructor
  · intro hit
    rw [hit]
    exact ⟨(look_eq_hit_iff.mp hit).1, by simp, by simp⟩
  · rintro ⟨rfl, hthere, hfresh⟩
    cases hlook : look fs cacheDir key source with
    | hit path => rw [(look_eq_hit_iff.mp hlook).1]
    | stale => exact absurd hlook hfresh
    | missing => exact absurd hlook hthere

end Look

/-- **When a libdoc is rejected.** No libdoc is found where its path leads nowhere. One that is there is
too old when its source outdates it or is misjudged to do so, and is reused at its path in all other
cases. A libdoc of a module whose source is unknown or can not be looked at is reused exactly if it is not
from before the epoch. So where the time of the libdoc can be told, and it is not from before the epoch or
the time of the source can be told as well, the libdoc is rejected only for a source that is newer. -/
theorem run_by_times (cacheDir : Path) (key : String) (m : ResolvedModule) (w : World σ) :
    let libdoc := artifactPath cacheDir key
    let check := (run cacheDir key m.source w).value
    (check = .missing ↔ w.files.pathExists libdoc = false) ∧
    (check = .stale ↔ w.files.pathExists libdoc = true ∧
      (w.files.Outdates m.source libdoc ∨ w.files.Misjudges m.source libdoc)) ∧
    (∀ path, check = .hit path ↔ path = libdoc ∧ w.files.pathExists libdoc = true ∧
      ¬ w.files.Outdates m.source libdoc ∧ ¬ w.files.Misjudges m.source libdoc) ∧
    (w.files.pathExists libdoc = true → m.source.bind w.files.modified? = none →
      (check = .hit libdoc ↔ Time.epoch ≤ w.files.changed (some libdoc))) ∧
    ∀ written, w.files.modified? libdoc = some written →
      Time.epoch ≤ written ∨ m.source.bind w.files.modified? ≠ none →
      (check = .stale ↔ w.files.Outdates m.source libdoc) ∧
      ∀ path, check = .hit path ↔ path = libdoc ∧ ¬ w.files.Outdates m.source libdoc := by
  intro libdoc check
  have hcheck : check = look w.files cacheDir key m.source := value_run cacheDir key m.source w
  have hmissing : check = .missing ↔ w.files.pathExists libdoc = false := by
    rw [hcheck, look_eq_missing_iff]
  have hstale : check = .stale ↔ w.files.pathExists libdoc = true ∧
      (w.files.Outdates m.source libdoc ∨ w.files.Misjudges m.source libdoc) := by
    rw [hcheck, look_eq_stale_iff]
  have hhit : ∀ path, check = .hit path ↔ path = libdoc ∧ w.files.pathExists libdoc = true ∧
      ¬ w.files.Outdates m.source libdoc ∧ ¬ w.files.Misjudges m.source libdoc := by
    intro path
    rw [hcheck, look_eq_hit_iff_not, ← hcheck, Ne, Ne, hmissing, hstale]
    refine and_congr_right fun _ => ?_
    rw [Bool.not_eq_false, not_and, not_or]
    exact and_congr_right fun hthere => imp_iff_right hthere
  refine ⟨hmissing, hstale, hhit, fun hthere hunknown => ?_, fun written hwritten hknown => ?_⟩
  · have hepoch := changed_of_unknown hunknown
    have hnot : ¬ w.files.Outdates m.source libdoc := not_outdates_of_unknown hunknown
    rw [hhit, Misjudges, hepoch]
    simp [hthere, hnot, hunknown]
  · have hthere := pathExists_of_modified? hwritten
    have hnot : ¬ w.files.Misjudges m.source libdoc := by
      rw [misjudges_iff_of_known hwritten]
      rintro ⟨hunknown, hbefore⟩
      rcases hknown with hafter | hsource
      · exact absurd hbefore (Int.not_lt.mpr hafter)
      · exact hsource hunknown
    refine ⟨?_, fun path => ?_⟩
    · rw [hstale, or_iff_left hnot, and_iff_right hthere]
    · rw [hhit, and_iff_right hthere, and_iff_left hnot]

end CacheCheck

namespace Ancient

/-- A cache directory with the libdoc of a module `k`, from one second before the epoch. -/
def world : World Unit where
  files :=
    { entries :=
        [([Utf8.encode "cache"], .directory 50),
          ([Utf8.encode "cache", Utf8.encode "k.xml"],
            .file [] FileSystem.plainMode (Time.ofParts (-1) 0))]
      workingDirectory := []
      rootTime := 0
      readsAll := false }
  clock := 0
  host := ()

/-- A module without a source. -/
def resolved : ResolvedModule := ⟨"k", "k", none, ⟨"k"⟩⟩

end Ancient

/-- A libdoc from before the epoch is rejected although its module has no source that could be newer. -/
theorem CacheCheck.rejected_without_source :
    let libdoc := artifactPath (.ofString "cache") "k"
    (run (.ofString "cache") "k" Ancient.resolved.source Ancient.world).value = .stale ∧
      Ancient.world.files.pathExists libdoc = true ∧ Ancient.resolved.source = none ∧
      ¬ Ancient.world.files.Outdates Ancient.resolved.source libdoc :=
  ⟨by decide +kernel, by decide +kernel, rfl, FileSystem.not_outdates_of_unknown rfl⟩

end KeywordDocs
