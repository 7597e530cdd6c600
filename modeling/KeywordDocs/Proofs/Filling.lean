import KeywordDocs.Proofs.Directories

/-!
# Filling a place with a file

Writing a file changes the file and, where it is new, the time of its directory (`entryAt?_filled`). All
other entries of that directory stay where they are: a path to one of them leads where it led
(`locate_filled`).
-/

namespace KeywordDocs

namespace FileSystem

variable {fs fs' : FileSystem} {follow : Bool} {p q : Path} {file : Option (Bytes × Time)}
  {k : Location} {e : Entry}

/-! ### The same file system -/

/-- The same entries and the same working directory. -/
structure Same (fs fs' : FileSystem) : Prop where
  workingDirectory : fs'.workingDirectory = fs.workingDirectory
  entry : ∀ k, fs'.entryAt? k = fs.entryAt? k

namespace Same

theorem refl (fs : FileSystem) : Same fs fs := ⟨rfl, fun _ => rfl⟩

theorem steps (same : Same fs fs') (follow : Bool)
    (via : Location → List Bytes → Except OsError Spot) (l : Location) (ps : List Bytes) :
    fs'.steps follow via l ps = fs.steps follow via l ps := by
  induction ps generalizing l with
  | nil => rw [FileSystem.steps, FileSystem.steps, same.entry]
  | cons part rest ih => rw [FileSystem.steps, FileSystem.steps]; simp only [same.entry, ih]

theorem walk (same : Same fs fs') (follow : Bool) (links : Nat) :
    fs'.walk follow links = fs.walk follow links := by
  induction links with
  | zero =>
    funext l ps
    exact same.steps follow _ l ps
  | succ links ih =>
    funext l ps
    rw [FileSystem.walk, FileSystem.walk, ih]
    exact same.steps follow _ l ps

/-- A path leads to the same in the same file system. -/
theorem locate (same : Same fs fs') (follow : Bool) (p : Path) :
    fs'.locate follow p = fs.locate follow p := by
  rw [FileSystem.locate, FileSystem.locate, same.walk, same.workingDirectory]

end Same

/-- The same working directory and the same entries, but for the times of some directories. -/
structure SameBut (loose : Location → Prop) (fs fs' : FileSystem) : Prop where
  workingDirectory : fs'.workingDirectory = fs.workingDirectory
  entry : ∀ k, ¬ loose k → fs'.entryAt? k = fs.entryAt? k
  directory : ∀ k, loose k →
    ∃ t t', fs.entryAt? k = some (.directory t) ∧ fs'.entryAt? k = some (.directory t')

theorem SameBut.refl {loose : Location → Prop}
    (h : ∀ k, loose k → ∃ t, fs.entryAt? k = some (.directory t)) : SameBut loose fs fs where
  workingDirectory := rfl
  entry _ _ := rfl
  directory k hk := by
    obtain ⟨t, hdirectory⟩ := h k hk
    exact ⟨t, t, hdirectory, hdirectory⟩

/-! ### What is written -/

/-- The file system with a file at a path, if there is one to be written and it can be written. -/
def filled (fs : FileSystem) (now : Time) (p : Path) : Option (Bytes × Time) → FileSystem
  | none => fs
  | some (content, time) => (fs.write now p content time).toOption.getD fs

/-- The file that writing at a path leaves at a location. -/
def placed? (fs : FileSystem) (p : Path) (file : Option (Bytes × Time)) (k : Location) : Option Entry :=
  match file, fs.locate true p with
  | some (content, time), .ok (.taken l (.file _ mode _)) =>
    if k = l then some (.file content mode time) else none
  | some (content, time), .ok (.free d n) =>
    if p.bytes.getLast? = some 47 then none
    else if k = d ++ [n] then some (.file content plainMode time)
    else none
  | _, _ => none

/-- The directory that gets a new file when one is written at a path. -/
def extended? (fs : FileSystem) (p : Path) (file : Option (Bytes × Time)) : Option Location :=
  match file, fs.locate true p with
  | some _, .ok (.free d _) => if p.bytes.getLast? = some 47 then none else some d
  | _, _ => none

/-- A file is written in the place of a file, or at a free name. -/
theorem placed?_eq_some (h : fs.placed? p file k = some e) :
    (∃ content mode time content' time', fs.locate true p = .ok (.taken k (.file content mode time)) ∧
      e = .file content' mode time') ∨
    ∃ d n content mode time, fs.locate true p = .ok (.free d n) ∧ k = d ++ [n] ∧
      fs.entryAt? k = none ∧ e = .file content mode time := by
  unfold placed? at h
  split at h
  · rename_i l _ _ _ hlocate
    split at h
    · rename_i hk
      subst hk
      cases h
      exact .inl ⟨_, _, _, _, _, hlocate, rfl⟩
    · cases h
  · rename_i d n hlocate
    split at h
    · cases h
    · split at h
      · rename_i hk
        subst hk
        cases h
        exact .inr ⟨d, n, _, _, _, hlocate, rfl, (locate_eq_ok_iff.mp hlocate).2.missing_of_free.2, rfl⟩
      · cases h
  · cases h

theorem extended?_eq_some (h : fs.extended? p file = some k) :
    ∃ n, fs.locate true p = .ok (.free k n) := by
  unfold extended? at h
  split at h
  · rename_i d n hlocate
    split at h
    · cases h
    · cases h
      exact ⟨n, hlocate⟩
  · cases h

theorem entryAt?_filled (fs : FileSystem) (now : Time) (p : Path) (file : Option (Bytes × Time))
    (k : Location) :
    (fs.filled now p file).entryAt? k = (fs.placed? p file k).or
      (if fs.extended? p file = some k then some (.directory now) else fs.entryAt? k) := by
  cases file with
  | none => rfl
  | some file =>
    obtain ⟨content, time⟩ := file
    cases hlocate : fs.locate true p with
    | error e => simp [filled, placed?, extended?, write, hlocate, Except.toOption]
    | ok spot =>
      cases spot with
      | free d n =>
        by_cases hslash : p.bytes.getLast? = some 47
        · simp [filled, placed?, extended?, write, hlocate, hslash, Except.toOption]
        · simp only [filled, placed?, extended?, write, hlocate, hslash, if_false, Except.toOption,
            Option.getD_some, entryAt?_add, Option.some.injEq, eq_comm (a := d)]
          split <;> rfl
      | taken l e =>
        have hentry := entryAt?_of_locate hlocate
        cases e with
        | directory t => simp [filled, placed?, extended?, write, hlocate, Except.toOption]
        | link target => simp [filled, placed?, extended?, write, hlocate, Except.toOption]
        | file old mode written =>
          simp only [filled, placed?, extended?, write, hlocate, Except.toOption, Option.getD_some,
            entryAt?_put_of_file hentry]
          split <;> rfl

theorem ways_filled (fs : FileSystem) (now : Time) (p : Path) (file : Option (Bytes × Time)) :
    Ways fs (fs.filled now p file) := by
  cases file with
  | none => exact Ways.refl fs
  | some file =>
    obtain ⟨content, time⟩ := file
    cases hwrite : fs.write now p content time with
    | error e => simpa [filled, hwrite, Except.toOption] using Ways.refl fs
    | ok written => simpa [filled, hwrite, Except.toOption] using ways_of_write hwrite

/-- Where a path leads nowhere nothing is written. -/
theorem filled_of_not_located (h : ∀ spot, fs.locate true p ≠ .ok spot) (now : Time)
    (file : Option (Bytes × Time)) : fs.filled now p file = fs := by
  cases file with
  | none => rfl
  | some file =>
    obtain ⟨content, time⟩ := file
    cases hlocate : fs.locate true p with
    | error e => simp [filled, write, hlocate, Except.toOption]
    | ok spot => exact absurd hlocate (h spot)

end FileSystem

/-! ### Entries of one directory -/

/-- A name that an entry of a directory can have, if it is not too long. -/
structure Path.IsPlain (name : Bytes) : Prop where
  noSlash : (47 : UInt8) ∉ name
  notIdle : ¬ (name = [] ∨ name = [46])
  notUp : ¬ name = [46, 46]

/-- The path of an entry of a directory. -/
def Path.IsChildOf (p dir : Path) : Prop := ∃ name, IsPlain name ∧ p = dir.join ⟨name⟩

namespace FileSystem

variable {fs fs' : FileSystem} {follow : Bool} {dir p q : Path} {d : Location} {name : Bytes} {t : Time}

/-- The path leads to a link, if that is not followed. -/
def isLink (fs : FileSystem) (p : Path) : Bool :=
  match fs.locate false p with
  | .ok (.taken _ (.link _)) => true
  | _ => false

/-- Where the front of a path leads to a directory, the rest of the path is looked up from there. -/
theorem Leads.walk_append {links : Nat} {l d : Location} {front : List Bytes} {t : Time}
    (h : Leads fs true links l front (.taken d (.directory t))) :
    ∃ n, ∀ follow back, ¬ IsLast back →
      fs.walk follow links l (front ++ back) = fs.walk follow n d back := by
  -- Along the rules: how many links are left at the directory does not depend on what follows.
  generalize hspot : Spot.taken d (.directory t) = spot at h
  induction h with
  | here =>
    cases hspot
    exact ⟨_, fun _ _ _ => rfl⟩
  | idle directory idle _ ih =>
    obtain ⟨n, hn⟩ := ih hspot
    refine ⟨n, fun follow back hback => ?_⟩
    rw [List.cons_append, walk_eq_steps, steps_idle directory idle, ← walk_eq_steps,
      hn follow back hback]
  | up directory _ ih =>
    obtain ⟨n, hn⟩ := ih hspot
    refine ⟨n, fun follow back hback => ?_⟩
    rw [List.cons_append, walk_eq_steps, steps_up directory, ← walk_eq_steps, hn follow back hback]
  | free => cases hspot
  | link _ _ _ _ unfollowed => cases unfollowed
  | @through links l part rest t target spot directory name entry followed target_ne next ih =>
    obtain ⟨n, hn⟩ := ih hspot
    refine ⟨n, fun follow back hback => ?_⟩
    have hlast : ¬ (IsLast (rest ++ back) ∧ follow = false) := by
      rintro ⟨hlast, _⟩
      rw [IsLast, List.all_append, Bool.and_eq_true] at hlast
      exact hback hlast.2
    rw [List.cons_append, walk_eq_steps, steps_name directory name]
    simp only [entry, if_neg hlast, if_neg target_ne]
    rw [← hn follow back hback, List.append_assoc]
    rfl
  | file => cases hspot
  | into directory name entry _ ih =>
    obtain ⟨n, hn⟩ := ih hspot
    refine ⟨n, fun follow back hback => ?_⟩
    rw [List.cons_append, walk_eq_steps, steps_name directory name]
    simp only [entry]
    rw [← walk_eq_steps, hn follow back hback]

/-- Where a name in a directory leads, unless it is that of a link. -/
def named (fs : FileSystem) (d : Location) (name : Bytes) : Except OsError Spot :=
  if maxName < name.length then .error .nameTooLong
  else
    match fs.entryAt? (d ++ [name]) with
    | none => .ok (.free d name)
    | some e => .ok (.taken (d ++ [name]) e)

theorem named_eq_ok {spot : Spot} (h : fs.named d name = .ok spot) :
    spot = .free d name ∨ ∃ e, spot = .taken (d ++ [name]) e := by
  unfold named at h
  split at h
  · cases h
  · split at h
    · cases h
      exact .inl rfl
    · cases h
      exact .inr ⟨_, rfl⟩

/-- What is written at one name of a directory changes no other. -/
theorem entryAt?_filled_of_named {n : Bytes} (h : fs.locate true p = fs.named d n) (hne : name ≠ n)
    (now : Time) (file : Option (Bytes × Time)) :
    (fs.filled now p file).entryAt? (d ++ [name]) = fs.entryAt? (d ++ [name]) := by
  have hends : ∀ spot, fs.locate true p = .ok spot →
      spot = .free d n ∨ ∃ e, spot = .taken (d ++ [n]) e := fun spot hspot =>
    named_eq_ok (h.symm.trans hspot)
  have hapart : d ++ [name] ≠ d ++ [n] := fun heq =>
    hne (List.cons.inj (List.append_cancel_left heq)).1
  have hplaced : fs.placed? p file (d ++ [name]) = none := by
    rw [Option.eq_none_iff_forall_ne_some]
    intro e hplaced
    rcases placed?_eq_some hplaced with ⟨_, _, _, _, _, hspot, _⟩ | ⟨_, _, _, _, _, hspot, hk, _⟩
    · rcases hends _ hspot with heq | ⟨_, heq⟩
      · cases heq
      · exact hapart (Spot.taken.inj heq).1
    · rcases hends _ hspot with heq | ⟨_, heq⟩
      · obtain ⟨rfl, rfl⟩ := Spot.free.inj heq
        exact hapart hk
      · cases heq
  have hextended : fs.extended? p file ≠ some (d ++ [name]) := by
    intro hextended
    obtain ⟨_, hspot⟩ := extended?_eq_some hextended
    rcases hends _ hspot with heq | ⟨_, heq⟩
    · exact List.cons_ne_nil _ _ (List.append_right_eq_self.mp (Spot.free.inj heq).1)
    · cases heq
  rw [entryAt?_filled, hplaced, if_neg hextended, Option.none_or]

theorem walk_name {links : Nat} (directory : fs.entryAt? d = some (.directory t))
    (plain : Path.IsPlain name)
    (unlinked : follow = true → ∀ k target, fs.named d name ≠ .ok (.taken k (.link target))) :
    fs.walk follow links d [name] = fs.named d name := by
  by_cases hlong : maxName < name.length
  · rw [walk_eq_steps, steps, named, if_pos hlong]
    simp only [directory, if_pos hlong]
  · rw [walk_eq_steps, steps_name directory ⟨hlong, plain.notIdle, plain.notUp⟩]
    rw [named, if_neg hlong] at unlinked ⊢
    cases hentry : fs.entryAt? (d ++ [name]) with
    | none => rfl
    | some e =>
      cases e with
      | file c mode time => simp only [true_or, if_true]
      | directory time =>
        rw [steps]
        simp only [hentry]
      | link target =>
        cases follow with
        | true =>
          rw [hentry] at unlinked
          exact absurd rfl (unlinked rfl _ target)
        | false => rfl

theorem locate_eq_walk (usable : Usable p) :
    fs.locate follow p = fs.walk follow maxLinks (fs.start p) (parts p) := by
  rw [locate, if_neg usable.noZero, if_neg usable.nonempty, if_neg usable.short]
  rfl

/-- A path that cannot be looked up fails alike in all file systems. -/
theorem locate_of_not_usable (h : ¬ Usable p) : fs'.locate follow p = fs.locate follow p := by
  unfold locate
  split
  · rfl
  · rename_i hzero
    split
    · rfl
    · rename_i hempty
      split
      · rfl
      · rename_i hshort
        exact absurd ⟨hzero, hempty, hshort⟩ h

theorem start_join (fs : FileSystem) (dir : Path) (plain : Path.IsPlain name) :
    fs.start (dir.join ⟨name⟩) = fs.start dir := by
  have habsolute : (dir.join ⟨name⟩).isAbsolute = dir.isAbsolute :=
    PathText.isAbsolute_join dir.bytes plain.noSlash
  rw [start, start, habsolute]

/-- The parts that the paths of all entries of a directory have in common. -/
theorem exists_parts_join (dir : Path) :
    ∃ front, ∀ name, Path.IsPlain name → parts (dir.join ⟨name⟩) = front ++ [name] := by
  obtain ⟨front, hfront⟩ := PathText.exists_split_join dir.bytes
  exact ⟨front, fun name plain => hfront name plain.noSlash⟩

theorem not_isLast_name (plain : Path.IsPlain name) : ¬ IsLast [name] := by
  intro hlast
  refine plain.notIdle (.inl ?_)
  simpa [IsLast] using hlast

section Child

variable {front : List Bytes}
  (leads : Leads fs true maxLinks (fs.start dir) front (.taken d (.directory t)))
  (plain : Path.IsPlain name) (hparts : parts (dir.join ⟨name⟩) = front ++ [name])
  (usable : Usable (dir.join ⟨name⟩))
include leads plain hparts usable

theorem locate_child
    (unlinked : follow = true → ∀ k target, fs.named d name ≠ .ok (.taken k (.link target))) :
    fs.locate follow (dir.join ⟨name⟩) = fs.named d name := by
  obtain ⟨n, hn⟩ := leads.walk_append
  rw [locate_eq_walk usable, start_join fs dir plain, hparts, hn follow [name] (not_isLast_name plain)]
  exact walk_name leads.entry_of_taken plain unlinked

theorem named_of_not_isLink (h : fs.isLink (dir.join ⟨name⟩) = false) (k : Location) (target : Path) :
    fs.named d name ≠ .ok (.taken k (.link target)) := by
  intro hnamed
  rw [isLink, locate_child leads plain hparts usable (fun h => by cases h), hnamed] at h
  cases h

end Child

/-- **Writing an entry of a directory leaves the others where they are**, if no links are among them. -/
theorem locate_filled (hp : p.IsChildOf dir) (hq : q.IsChildOf dir) (hne : q ≠ p)
    (hplink : fs.isLink p = false) (hqlink : fs.isLink q = false) (now : Time)
    (file : Option (Bytes × Time)) : (fs.filled now p file).locate true q = fs.locate true q := by
  obtain ⟨front, hparts⟩ := exists_parts_join dir
  obtain ⟨n, plain, rfl⟩ := hp
  obtain ⟨name, plain', rfl⟩ := hq
  by_cases hlocated : ∃ spot, fs.locate true (dir.join ⟨n⟩) = .ok spot
  · obtain ⟨spot, hspot⟩ := hlocated
    obtain ⟨usable, hleads⟩ := locate_eq_ok_iff.mp hspot
    rw [start_join fs dir plain, hparts n plain] at hleads
    obtain ⟨d, t, leads⟩ := hleads.front (not_isLast_name plain)
    by_cases usable' : Usable (dir.join ⟨name⟩)
    · -- Both are names in the directory that the paths have in common, and only one of them changes.
      have hlocate : fs.locate true (dir.join ⟨n⟩) = fs.named d n :=
        locate_child leads plain (hparts n plain) usable fun _ =>
          named_of_not_isLink leads plain (hparts n plain) usable hplink
      have hname : name ≠ n := by
        rintro rfl
        exact hne rfl
      have hunlinked := named_of_not_isLink leads plain' (hparts name plain') usable' hqlink
      have hnamed : (fs.filled now (dir.join ⟨n⟩) file).named d name = fs.named d name := by
        rw [named, named, entryAt?_filled_of_named hlocate hname]
      have ways := fs.ways_filled now (dir.join ⟨n⟩) file
      obtain ⟨t', directory⟩ := ways.directory d t leads.entry_of_taken
      have leads' := leads.along ways directory trivial
      rw [← ways.start dir] at leads'
      rw [locate_child leads' plain' (hparts name plain') usable' fun _ => hnamed ▸ hunlinked, hnamed,
        locate_child leads plain' (hparts name plain') usable' fun _ => hunlinked]
    · exact locate_of_not_usable usable'
  · rw [filled_of_not_located (not_exists.mp hlocated)]

end FileSystem

end KeywordDocs
