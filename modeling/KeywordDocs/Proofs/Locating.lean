import Mathlib.Data.List.Basic
import KeywordDocs.Artifact.Cache

/-!
# Where paths lead

Looking up a path is a walk through directories and links. `Leads` gives the successful walks by
rules, one for each way of taking a step, and `walk_eq_ok_iff` says that the look-up finds exactly
those. The facts about changed file systems are then proved along the rules:

* `Leads.along`: where the directories and links of a file system are kept (`Ways`), each path that
  led somewhere leads there still;
* `Leads.front`: the front of a path that leads somewhere leads to a directory.
-/

namespace KeywordDocs

/-- Are both entries files, both directories or both links? -/
def Entry.SameKind : Entry → Entry → Prop
  | .file .., .file .. => True
  | .directory _, .directory _ => True
  | .link _, .link _ => True
  | _, _ => False

namespace FileSystem

/-! ### Walks by rules -/

/-- A part of a path that stands for an entry of that name. -/
structure IsName (part : Bytes) : Prop where
  short : ¬ maxName < part.length
  notIdle : ¬ (part = [] ∨ part = [46])
  notUp : ¬ part = [46, 46]

/-- Nothing but separators is left of a path. -/
def IsLast (rest : List Bytes) : Prop := rest.all (· = []) = true

instance (rest : List Bytes) : Decidable (IsLast rest) := inferInstanceAs (Decidable (_ = true))

/-- The walks of a path from a location, with the number of links that may still be followed and the
spot they end at. -/
inductive Leads (fs : FileSystem) (follow : Bool) : Nat → Location → List Bytes → Spot → Prop
  /-- The path is at its end. -/
  | here {links : Nat} {l : Location} {e : Entry} (entry : fs.entryAt? l = some e) :
      Leads fs follow links l [] (.taken l e)
  /-- An empty part or `.` leads nowhere else. -/
  | idle {links : Nat} {l : Location} {part : Bytes} {rest : List Bytes} {t : Time} {spot : Spot}
      (directory : fs.entryAt? l = some (.directory t)) (idle : part = [] ∨ part = [46])
      (next : Leads fs follow links l rest spot) : Leads fs follow links l (part :: rest) spot
  /-- `..` leads to the directory above. -/
  | up {links : Nat} {l : Location} {rest : List Bytes} {t : Time} {spot : Spot}
      (directory : fs.entryAt? l = some (.directory t))
      (next : Leads fs follow links l.dropLast rest spot) :
      Leads fs follow links l ([46, 46] :: rest) spot
  /-- The last name may be free. -/
  | free {links : Nat} {l : Location} {part : Bytes} {rest : List Bytes} {t : Time}
      (directory : fs.entryAt? l = some (.directory t)) (name : IsName part)
      (missing : fs.entryAt? (l ++ [part]) = none) (last : IsLast rest) :
      Leads fs follow links l (part :: rest) (.free l part)
  /-- The last name may be that of a link which is not to be followed. -/
  | link {links : Nat} {l : Location} {part : Bytes} {rest : List Bytes} {t : Time} {target : Path}
      (directory : fs.entryAt? l = some (.directory t)) (name : IsName part)
      (entry : fs.entryAt? (l ++ [part]) = some (.link target)) (last : IsLast rest)
      (unfollowed : follow = false) :
      Leads fs follow links l (part :: rest) (.taken (l ++ [part]) (.link target))
  /-- Any other link leads on from its target. -/
  | through {links : Nat} {l : Location} {part : Bytes} {rest : List Bytes} {t : Time} {target : Path}
      {spot : Spot} (directory : fs.entryAt? l = some (.directory t)) (name : IsName part)
      (entry : fs.entryAt? (l ++ [part]) = some (.link target))
      (followed : ¬ (IsLast rest ∧ follow = false)) (target_ne : target.bytes ≠ [])
      (next : Leads fs follow links (if target.isAbsolute then [] else l) (parts target ++ rest)
        spot) :
      Leads fs follow (links + 1) l (part :: rest) spot
  /-- A name may be that of a file, if it is the last one. -/
  | file {links : Nat} {l : Location} {part : Bytes} {rest : List Bytes} {t time : Time} {c : Bytes}
      {mode : Nat} (directory : fs.entryAt? l = some (.directory t)) (name : IsName part)
      (entry : fs.entryAt? (l ++ [part]) = some (.file c mode time))
      (last : rest = [] ∨ IsLast rest ∧ follow = false) :
      Leads fs follow links l (part :: rest) (.taken (l ++ [part]) (.file c mode time))
  /-- A name may be that of a directory. -/
  | into {links : Nat} {l : Location} {part : Bytes} {rest : List Bytes} {t time : Time} {spot : Spot}
      (directory : fs.entryAt? l = some (.directory t)) (name : IsName part)
      (entry : fs.entryAt? (l ++ [part]) = some (.directory time))
      (next : Leads fs follow links (l ++ [part]) rest spot) :
      Leads fs follow links l (part :: rest) spot

variable {fs fs' : FileSystem} {follow : Bool}

/-- How a walk goes on through a link. -/
def viaLinks (fs : FileSystem) (follow : Bool) : Nat → Location → List Bytes → Except OsError Spot
  | 0 => fun _ _ => .error .tooManyLinks
  | links + 1 => fs.walk follow links

theorem walk_eq_steps (fs : FileSystem) (follow : Bool) (links : Nat) :
    fs.walk follow links = fs.steps follow (fs.viaLinks follow links) := by
  cases links <;> rfl

section Steps

variable {via : Location → List Bytes → Except OsError Spot} {l : Location} {part : Bytes}
  {rest : List Bytes} {t : Time}

theorem steps_idle (directory : fs.entryAt? l = some (.directory t))
    (idle : part = [] ∨ part = [46]) :
    fs.steps follow via l (part :: rest) = fs.steps follow via l rest := by
  have hshort : ¬ maxName < part.length := by
    rcases idle with rfl | rfl <;> decide
  rw [steps]
  simp only [directory, if_neg hshort, if_pos idle]

theorem steps_up (directory : fs.entryAt? l = some (.directory t)) :
    fs.steps follow via l ([46, 46] :: rest) = fs.steps follow via l.dropLast rest := by
  have hshort : ¬ maxName < ([46, 46] : Bytes).length := by decide
  have hidle : ¬ (([46, 46] : Bytes) = [] ∨ ([46, 46] : Bytes) = [46]) := by decide
  rw [steps]
  simp only [directory, if_neg hshort, if_neg hidle, if_true]

theorem steps_name (directory : fs.entryAt? l = some (.directory t)) (name : IsName part) :
    fs.steps follow via l (part :: rest) =
      match fs.entryAt? (l ++ [part]) with
      | none => if IsLast rest then .ok (.free l part) else .error .notFound
      | some (.link target) =>
        if IsLast rest ∧ follow = false then .ok (.taken (l ++ [part]) (.link target))
        else if target.bytes = [] then .error .notFound
        else via (if target.isAbsolute then [] else l) (parts target ++ rest)
      | some (.file c mode time) =>
        if rest = [] ∨ IsLast rest ∧ follow = false then
          .ok (.taken (l ++ [part]) (.file c mode time))
        else .error .notDirectory
      | some (.directory _) => fs.steps follow via (l ++ [part]) rest := by
  rw [steps]
  simp only [directory, if_neg name.short, if_neg name.notIdle, if_neg name.notUp, IsLast,
    Bool.not_eq_true]
  cases fs.entryAt? (l ++ [part]) with
  | none => rfl
  | some e => cases e <;> rfl

end Steps

/-- A walk that ends goes by the rules, if those that go on through a link do. -/
theorem leads_of_steps {links : Nat}
    (hvia : ∀ l ps spot, fs.viaLinks follow links l ps = .ok spot →
      ∃ n, links = n + 1 ∧ Leads fs follow n l ps spot) :
    ∀ (ps : List Bytes) (l : Location) (spot : Spot),
      fs.steps follow (fs.viaLinks follow links) l ps = .ok spot → Leads fs follow links l ps spot := by
  intro ps
  induction ps with
  | nil =>
    intro l spot h
    rw [steps] at h
    split at h
    · rename_i e he
      cases h
      exact .here he
    · cases h
  | cons part rest ih =>
    intro l spot h
    cases hl : fs.entryAt? l with
    | none => simp [steps, hl] at h
    | some e =>
      cases e with
      | file c mode time => simp [steps, hl] at h
      | link target => simp [steps, hl] at h
      | directory t =>
        by_cases hidle : part = [] ∨ part = [46]
        · rw [steps_idle hl hidle] at h
          exact .idle hl hidle (ih l spot h)
        · by_cases hup : part = [46, 46]
          · subst hup
            rw [steps_up hl] at h
            exact .up hl (ih _ spot h)
          · by_cases hshort : maxName < part.length
            · simp [steps, hl, hshort] at h
            · have hname : IsName part := ⟨hshort, hidle, hup⟩
              rw [steps_name hl hname] at h
              split at h
              · rename_i hnone
                split at h
                · rename_i hlast
                  cases h
                  exact .free hl hname hnone hlast
                · cases h
              · rename_i target hlink
                split at h
                · rename_i hlast
                  cases h
                  exact .link hl hname hlink hlast.1 hlast.2
                · rename_i hfollowed
                  split at h
                  · cases h
                  · rename_i htarget
                    obtain ⟨n, rfl, hnext⟩ := hvia _ _ _ h
                    exact .through hl hname hlink hfollowed htarget hnext
              · rename_i c mode time hfile
                split at h
                · rename_i hlast
                  cases h
                  exact .file hl hname hfile hlast
                · cases h
              · rename_i time hdir
                exact .into hl hname hdir (ih _ spot h)

theorem leads_of_walk {links : Nat} {l : Location} {ps : List Bytes} {spot : Spot}
    (h : fs.walk follow links l ps = .ok spot) : Leads fs follow links l ps spot := by
  induction links generalizing l ps spot with
  | zero =>
    rw [walk_eq_steps] at h
    exact leads_of_steps (fun _ _ _ hvia => by cases hvia) ps l spot h
  | succ links ih =>
    rw [walk_eq_steps] at h
    exact leads_of_steps (fun _ _ _ hvia => ⟨links, rfl, ih hvia⟩) ps l spot h

theorem walk_of_leads {links : Nat} {l : Location} {ps : List Bytes} {spot : Spot}
    (h : Leads fs follow links l ps spot) : fs.walk follow links l ps = .ok spot := by
  induction h with
  | here entry => rw [walk_eq_steps, steps]; simp only [entry]
  | idle directory idle _ ih => rw [walk_eq_steps, steps_idle directory idle, ← walk_eq_steps, ih]
  | up directory _ ih => rw [walk_eq_steps, steps_up directory, ← walk_eq_steps, ih]
  | free directory name missing last =>
    rw [walk_eq_steps, steps_name directory name]
    simp only [missing, if_pos last]
  | link directory name entry last unfollowed =>
    rw [walk_eq_steps, steps_name directory name]
    simp only [entry, if_pos (And.intro last unfollowed)]
  | through directory name entry followed target_ne _ ih =>
    rw [walk_eq_steps, steps_name directory name]
    simp only [entry, if_neg followed, if_neg target_ne]
    exact ih
  | file directory name entry last =>
    rw [walk_eq_steps, steps_name directory name]
    simp only [entry, if_pos last]
  | into directory name entry _ ih =>
    rw [walk_eq_steps, steps_name directory name]
    simp only [entry]
    rw [← walk_eq_steps, ih]

/-- The look-up finds exactly the spots that the rules lead to. -/
theorem walk_eq_ok_iff {links : Nat} {l : Location} {ps : List Bytes} {spot : Spot} :
    fs.walk follow links l ps = .ok spot ↔ Leads fs follow links l ps spot :=
  ⟨leads_of_walk, walk_of_leads⟩

/-- Where the walk of a path starts. -/
def start (fs : FileSystem) (p : Path) : Location := if p.isAbsolute then [] else fs.workingDirectory

/-- A path that can be looked up at all. -/
structure Usable (p : Path) : Prop where
  noZero : ¬ (0 : UInt8) ∈ p.bytes
  nonempty : ¬ p.bytes = []
  short : ¬ maxPath < p.bytes.length

theorem locate_eq_ok_iff {p : Path} {spot : Spot} :
    fs.locate follow p = .ok spot ↔
      Usable p ∧ Leads fs follow maxLinks (fs.start p) (parts p) spot := by
  constructor
  · intro h
    rw [locate] at h
    split at h
    · cases h
    · rename_i hzero
      split at h
      · cases h
      · rename_i hempty
        split at h
        · cases h
        · rename_i hshort
          exact ⟨⟨hzero, hempty, hshort⟩, walk_eq_ok_iff.mp h⟩
  · rintro ⟨⟨hzero, hempty, hshort⟩, hleads⟩
    rw [locate, if_neg hzero, if_neg hempty, if_neg hshort]
    exact walk_eq_ok_iff.mpr hleads

/-! ### What a walk tells of its end -/

namespace Leads

variable {links : Nat} {l : Location} {ps : List Bytes}

/-- The entry a walk ends at is the one at that location. -/
theorem entry_of_taken {k : Location} {e : Entry} (h : Leads fs follow links l ps (.taken k e)) :
    fs.entryAt? k = some e := by
  generalize hspot : Spot.taken k e = spot at h
  induction h with
  | here entry => cases hspot; exact entry
  | idle _ _ _ ih => exact ih hspot
  | up _ _ ih => exact ih hspot
  | free => cases hspot
  | link _ _ entry => cases hspot; exact entry
  | through _ _ _ _ _ _ ih => exact ih hspot
  | file _ _ entry => cases hspot; exact entry
  | into _ _ _ _ ih => exact ih hspot

/-- A free spot is a missing name in a directory. -/
theorem missing_of_free {d : Location} {n : Bytes} (h : Leads fs follow links l ps (.free d n)) :
    (∃ t, fs.entryAt? d = some (.directory t)) ∧ fs.entryAt? (d ++ [n]) = none := by
  generalize hspot : Spot.free d n = spot at h
  induction h with
  | here => cases hspot
  | idle _ _ _ ih => exact ih hspot
  | up _ _ ih => exact ih hspot
  | free directory _ missing => cases hspot; exact ⟨⟨_, directory⟩, missing⟩
  | link => cases hspot
  | through _ _ _ _ _ _ ih => exact ih hspot
  | file => cases hspot
  | into _ _ _ _ ih => exact ih hspot

/-- A path that leads somewhere through a last link leads to that link when it is not followed. -/
theorem unfollowed {k : Location} {e : Entry} (h : Leads fs true links l ps (.taken k e)) :
    ∃ k' e', Leads fs false links l ps (.taken k' e') := by
  generalize hspot : Spot.taken k e = spot at h
  induction h with
  | here entry => exact ⟨_, _, .here entry⟩
  | idle directory idle _ ih =>
    obtain ⟨k', e', hnext⟩ := ih hspot
    exact ⟨k', e', .idle directory idle hnext⟩
  | up directory _ ih =>
    obtain ⟨k', e', hnext⟩ := ih hspot
    exact ⟨k', e', .up directory hnext⟩
  | free => cases hspot
  | link _ _ _ _ unfollowed => cases unfollowed
  | @through links l part rest t target spot directory name entry followed target_ne next ih =>
    by_cases hlast : IsLast rest
    · exact ⟨_, _, .link directory name entry hlast rfl⟩
    · obtain ⟨k', e', hnext⟩ := ih hspot
      exact ⟨k', e', .through directory name entry (fun h => hlast h.1) target_ne hnext⟩
  | file directory name entry last =>
    rcases last with rfl | last
    · exact ⟨_, _, .file directory name entry (.inl rfl)⟩
    · cases last.2
  | into directory name entry _ ih =>
    obtain ⟨k', e', hnext⟩ := ih hspot
    exact ⟨k', e', .into directory name entry hnext⟩

/-- The front of a path that leads somewhere leads to a directory, if more than separators follow. -/
theorem front {front back : List Bytes} {spot : Spot} (hback : ¬ IsLast back)
    (h : Leads fs follow links l (front ++ back) spot) :
    ∃ k t, Leads fs true links l front (.taken k (.directory t)) := by
  generalize hps : front ++ back = ps at h
  have hne : back ≠ [] := by
    rintro rfl
    exact hback rfl
  have notLast : ∀ front : List Bytes, ¬ IsLast (front ++ back) := by
    intro front hlast
    rw [IsLast, List.all_append, Bool.and_eq_true] at hlast
    exact hback hlast.2
  induction h generalizing front with
  | here => exact absurd (List.append_eq_nil_iff.mp hps).2 hne
  | idle directory idle _ ih =>
    cases front with
    | nil => exact ⟨_, _, .here directory⟩
    | cons part front =>
      obtain ⟨rfl, rfl⟩ := List.cons.inj hps
      obtain ⟨k, t, hfront⟩ := ih rfl
      exact ⟨k, t, .idle directory idle hfront⟩
  | up directory _ ih =>
    cases front with
    | nil => exact ⟨_, _, .here directory⟩
    | cons part front =>
      obtain ⟨rfl, rfl⟩ := List.cons.inj hps
      obtain ⟨k, t, hfront⟩ := ih rfl
      exact ⟨k, t, .up directory hfront⟩
  | free directory _ _ last =>
    cases front with
    | nil => exact ⟨_, _, .here directory⟩
    | cons part front =>
      obtain ⟨rfl, rfl⟩ := List.cons.inj hps
      exact absurd last (notLast front)
  | link directory _ _ last =>
    cases front with
    | nil => exact ⟨_, _, .here directory⟩
    | cons part front =>
      obtain ⟨rfl, rfl⟩ := List.cons.inj hps
      exact absurd last (notLast front)
  | through directory name entry _ target_ne _ ih =>
    cases front with
    | nil => exact ⟨_, _, .here directory⟩
    | cons part front =>
      obtain ⟨rfl, rfl⟩ := List.cons.inj hps
      obtain ⟨k, t, hfront⟩ := ih (List.append_assoc ..)
      exact ⟨k, t, .through directory name entry (fun h => by cases h.2) target_ne hfront⟩
  | file directory _ _ last =>
    cases front with
    | nil => exact ⟨_, _, .here directory⟩
    | cons part front =>
      obtain ⟨rfl, rfl⟩ := List.cons.inj hps
      rcases last with last | last
      · exact absurd (List.append_eq_nil_iff.mp last).2 hne
      · exact absurd last.1 (notLast front)
  | into directory name entry _ ih =>
    cases front with
    | nil => exact ⟨_, _, .here directory⟩
    | cons part front =>
      obtain ⟨rfl, rfl⟩ := List.cons.inj hps
      obtain ⟨k, t, hfront⟩ := ih rfl
      exact ⟨k, t, .into directory name entry hfront⟩

/-- Separators at the end of a path lead nowhere else. -/
theorem last {ps : List Bytes} (hlast : IsLast ps) {t : Time}
    (directory : fs.entryAt? l = some (.directory t)) :
    Leads fs follow links l ps (.taken l (.directory t)) := by
  induction ps with
  | nil => exact .here directory
  | cons part rest ih =>
    simp only [IsLast, List.all_cons, Bool.and_eq_true, decide_eq_true_eq] at hlast
    exact .idle directory (.inl hlast.1) (ih hlast.2)

end Leads

/-! ### Ways that are kept -/

/-- All ways through the one file system are ways through the other: its directories are still there,
and its links lead where they led. -/
structure Ways (fs fs' : FileSystem) : Prop where
  workingDirectory : fs'.workingDirectory = fs.workingDirectory
  directory : ∀ l t, fs.entryAt? l = some (.directory t) → ∃ t', fs'.entryAt? l = some (.directory t')
  link : ∀ l target, fs.entryAt? l = some (.link target) → fs'.entryAt? l = some (.link target)

theorem Ways.refl (fs : FileSystem) : Ways fs fs := ⟨rfl, fun _ t h => ⟨t, h⟩, fun _ _ h => h⟩

theorem Ways.trans {fs'' : FileSystem} (h : Ways fs fs') (h' : Ways fs' fs'') : Ways fs fs'' where
  workingDirectory := h'.workingDirectory.trans h.workingDirectory
  directory l t hl := by
    obtain ⟨t', hl'⟩ := h.directory l t hl
    exact h'.directory l t' hl'
  link l target hl := h'.link l target (h.link l target hl)

/-- A path leads where it led as long as the ways are kept and an entry of the same kind is there. -/
theorem Leads.along (ways : Ways fs fs') {links : Nat} {l k : Location} {ps : List Bytes} {e e' : Entry}
    (h : Leads fs follow links l ps (.taken k e)) (entry : fs'.entryAt? k = some e')
    (kind : e.SameKind e') : Leads fs' follow links l ps (.taken k e') := by
  generalize hspot : Spot.taken k e = spot at h
  induction h with
  | here => cases hspot; exact .here entry
  | idle directory idle _ ih =>
    obtain ⟨t, directory'⟩ := ways.directory _ _ directory
    exact .idle directory' idle (ih hspot)
  | up directory _ ih =>
    obtain ⟨t, directory'⟩ := ways.directory _ _ directory
    exact .up directory' (ih hspot)
  | free => cases hspot
  | link directory name _ last unfollowed =>
    cases hspot
    obtain ⟨t, directory'⟩ := ways.directory _ _ directory
    cases e' with
    | link target => exact .link directory' name entry last unfollowed
    | file => exact kind.elim
    | directory => exact kind.elim
  | through directory name link followed target_ne _ ih =>
    obtain ⟨t, directory'⟩ := ways.directory _ _ directory
    exact .through directory' name (ways.link _ _ link) followed target_ne (ih hspot)
  | file directory name _ last =>
    cases hspot
    obtain ⟨t, directory'⟩ := ways.directory _ _ directory
    cases e' with
    | file => exact .file directory' name entry last
    | directory => exact kind.elim
    | link => exact kind.elim
  | into directory name inner _ ih =>
    obtain ⟨t, directory'⟩ := ways.directory _ _ directory
    obtain ⟨t', inner'⟩ := ways.directory _ _ inner
    exact .into directory' name inner' (ih hspot)

theorem Ways.start (ways : Ways fs fs') (p : Path) : fs'.start p = fs.start p := by
  rw [FileSystem.start, FileSystem.start, ways.workingDirectory]

theorem Ways.locate (ways : Ways fs fs') {p : Path} {k : Location} {e e' : Entry}
    (h : fs.locate follow p = .ok (.taken k e)) (entry : fs'.entryAt? k = some e')
    (kind : e.SameKind e') : fs'.locate follow p = .ok (.taken k e') := by
  obtain ⟨usable, leads⟩ := locate_eq_ok_iff.mp h
  refine locate_eq_ok_iff.mpr ⟨usable, ?_⟩
  rw [ways.start]
  exact leads.along ways entry kind

theorem entryAt?_of_locate {p : Path} {k : Location} {e : Entry}
    (h : fs.locate follow p = .ok (.taken k e)) : fs.entryAt? k = some e :=
  (locate_eq_ok_iff.mp h).2.entry_of_taken

end FileSystem

end KeywordDocs
