import KeywordDocs.Proofs.Parents
import KeywordDocs.Settings.Discovery

/-!
# The way up to a configuration file

A configuration file is looked for in a directory, in its parent, in the parent of that, and so on. Each
parent is a proper front of the path below it (`length_lt_of_parent?`), so the way up has an end, at
the root or at the empty path (`ascent_ancestors`). It is the way that `discoverConfig?` takes, turn by turn
(`discoverConfig?_eq`), and the first file on it counts (`nearest_config_counts`).
-/

namespace KeywordDocs

/-! ### Parents are shorter -/

namespace PathText

variable {α : Type} [DecidableEq α] [PathAlphabet α] {p q : List α}

open PathAlphabet

/-- A parent lacks the last component, which is not the root. -/
theorem components_of_parent? (h : parent? p = some q) :
    ∃ part, components p = components q ++ [counted part] := by
  cases hparts : reversedParts p with
  | nil =>
    rw [parent?, hparts] at h
    cases h
  | cons part rest =>
    obtain ⟨q', hq', hcomponents⟩ := components_of_reversedParts hparts
    cases h.symm.trans hq'
    exact ⟨part, hcomponents⟩

/-- A path without a parent is the root or empty. -/
theorem components_of_parent?_eq_none (h : parent? p = none) :
    components p = if isAbsolute p then [.root] else [] := by
  cases hparts : reversedParts p with
  | nil => exact components_of_reversedParts_nil hparts
  | cons part rest =>
    obtain ⟨q, hq, _⟩ := components_of_reversedParts hparts
    rw [h] at hq
    cases hq

theorem component?_ne_root (part : List α) : component? part ≠ some .root := by
  unfold component?
  split
  · simp
  · split <;> simp

theorem counted_ne_root (part : List α) : counted part ≠ .root := by
  unfold counted
  split
  · simp
  · split <;> simp

theorem head?_components_eq_root_iff : (components p).head? = some .root ↔ isAbsolute p = true := by
  unfold components origin
  cases isAbsolute p with
  | true => simp
  | false =>
    refine iff_of_false (fun hhead => ?_) Bool.false_ne_true
    have hmem := List.mem_of_mem_head? hhead
    rw [if_neg Bool.false_ne_true, List.mem_append, List.mem_filterMap] at hmem
    rcases hmem with horigin | ⟨part, _, hpart⟩
    · split at horigin <;> simp at horigin
    · exact component?_ne_root part hpart

theorem isAbsolute_of_parent? (h : parent? p = some q) : isAbsolute q = isAbsolute p := by
  obtain ⟨part, hcomponents⟩ := components_of_parent? h
  rw [Bool.eq_iff_iff, ← head?_components_eq_root_iff, ← head?_components_eq_root_iff, hcomponents]
  by_cases hq : components q = []
  · rw [hq]
    simp [counted_ne_root]
  · rw [List.head?_append_of_ne_nil _ hq]

/-- A parent is a front of the path, also where it is the root or empty. -/
theorem isPrefix_of_parent? (h : parent? p = some q) : q <+: p := by
  by_cases hne : q = []
  · rw [hne]
    exact List.nil_prefix
  · by_cases hroot : q = [slash]
    · have habsolute : isAbsolute p = true := by
        rw [← isAbsolute_of_parent? h, hroot]
        simp [isAbsolute]
      rw [isAbsolute, decide_eq_true_eq] at habsolute
      obtain ⟨cs, rfl⟩ := List.head?_eq_some_iff.mp habsolute
      rw [hroot]
      exact List.prefix_append [slash] cs
    · exact prefix_of_parent? h hne hroot

/-- A parent is shorter than the path, by the last component at least. -/
theorem length_lt_of_parent? (h : parent? p = some q) : q.length < p.length := by
  have hfront := isPrefix_of_parent? h
  refine Nat.lt_of_le_of_ne hfront.length_le fun hlength => ?_
  -- A parent of the same length would be the path itself, with one component less.
  obtain ⟨part, hcomponents⟩ := components_of_parent? h
  rw [hfront.eq_of_length hlength] at hcomponents
  simp at hcomponents

end PathText

/-! ### The way up -/

namespace Path

/-- The way up from a path: parent by parent, to a path that has none. -/
inductive Ascent : Path → List Path → Prop
  | top {p : Path} (top : p.parent? = none) : Ascent p [p]
  | up {p q : Path} {above : List Path} (parent : p.parent? = some q) (rest : Ascent q above) :
      Ascent p (p :: above)

/-- The way up passes no more parents than the path has marks. -/
theorem ascent_ancestorsUpTo {fuel : Nat} {p : Bytes} (h : p.length ≤ fuel) :
    Ascent ⟨p⟩ ((PathText.ancestorsUpTo fuel p).map Path.mk) := by
  induction fuel generalizing p with
  | zero =>
    rw [List.eq_nil_of_length_eq_zero (Nat.le_zero.mp h)]
    exact .top rfl
  | succ fuel ih =>
    rw [PathText.ancestorsUpTo]
    split
    · rename_i hparent
      refine .top ?_
      rw [parent?, hparent]
      rfl
    · rename_i q hparent
      have hshorter := PathText.length_lt_of_parent? hparent
      refine .up (q := ⟨q⟩) ?_ (ih (by omega))
      rw [parent?, hparent]
      rfl

/-- The ancestors of a path are the way up from it, without a gap and to its end. -/
theorem ascent_ancestors (p : Path) : p.Ascent p.ancestors :=
  ascent_ancestorsUpTo (Nat.le_succ p.bytes.length)

example : (ofString "a//b/../c/.").ancestors =
    [ofString "a//b/../c/.", ofString "a//b/..", ofString "a//b", ofString "a", ofString ""] := by
  decide

theorem bytes_of_parent? {p q : Path} (h : p.parent? = some q) :
    PathText.parent? p.bytes = some q.bytes := by
  obtain ⟨bytes, hbytes, rfl⟩ := Option.map_eq_some_iff.mp h
  exact hbytes

namespace Ascent

variable {p : Path} {chain : List Path}

theorem unique {other : List Path} (h : p.Ascent chain) (h' : p.Ascent other) : chain = other := by
  induction h generalizing other with
  | top top =>
    cases h' with
    | top => rfl
    | up parent =>
      rw [top] at parent
      cases parent
  | up parent rest ih =>
    cases h' with
    | top top =>
      rw [parent] at top
      cases top
    | up parent' rest' =>
      cases parent.symm.trans parent'
      rw [ih rest']

/-- The way up ends at the root, or for a relative path at the empty one. -/
theorem exists_top (h : p.Ascent chain) :
    ∃ top, chain.getLast? = some top ∧
      top.components = if p.isAbsolute then [.root] else [] := by
  induction h with
  | @top p top =>
    refine ⟨p, rfl, PathText.components_of_parent?_eq_none ?_⟩
    exact Option.map_eq_none_iff.mp top
  | @up p q above parent rest ih =>
    obtain ⟨top, hlast, hcomponents⟩ := ih
    refine ⟨top, ?_, ?_⟩
    · rw [List.getLast?_cons, hlast, Option.getD_some]
    · rwa [isAbsolute, PathText.isAbsolute_of_parent? (bytes_of_parent? parent)] at hcomponents

/-- There are as many directories on the way up as there are components, and the empty path for a
relative one. -/
theorem length_eq (h : p.Ascent chain) :
    chain.length = p.components.length + if p.isAbsolute then 0 else 1 := by
  induction h with
  | @top p top =>
    have hcomponents : p.components = if p.isAbsolute then [.root] else [] :=
      PathText.components_of_parent?_eq_none (Option.map_eq_none_iff.mp top)
    rw [hcomponents]
    cases p.isAbsolute <;> rfl
  | @up p q above parent rest ih =>
    have hparent := bytes_of_parent? parent
    have habsolute : q.isAbsolute = p.isAbsolute := PathText.isAbsolute_of_parent? hparent
    obtain ⟨part, hcomponents⟩ := PathText.components_of_parent? hparent
    have hlength : p.components.length = q.components.length + 1 := by
      rw [components, hcomponents, List.length_append]
      rfl
    rw [List.length_cons, ih, hlength, habsolute]
    omega

end Ascent

/-- The ancestors of a path are the path and the ancestors of its parent. -/
theorem ancestors_eq (p : Path) :
    p.ancestors = p :: match p.parent? with
      | some q => q.ancestors
      | none => [] := by
  generalize hchain : p.ancestors = chain
  have ascent := ascent_ancestors p
  rw [hchain] at ascent
  cases ascent with
  | top top => rw [top]
  | up parent rest => rw [parent, rest.unique (ascent_ancestors _)]

end Path

/-! ### The search for a configuration file -/

/-- The configuration file of a directory. -/
def configIn (dir : Path) : Path := dir.join (.ofString configFileName)

/-- The user's configuration file, if there is one. -/
def userConfig? (fs : FileSystem) (home : Option Path) : Option Path :=
  (home.map (·.join (.ofString homeConfig))).filter fs.isFile

variable {fs : FileSystem} {home : Option Path}

/-- One turn of the search: the file of the directory counts, or else what is found from its parent; after
the last directory it is the user's file. -/
theorem discoverConfig?_eq (fs : FileSystem) (home : Option Path) (dir : Path) :
    discoverConfig? fs home dir =
      if fs.isFile (configIn dir) then some (configIn dir)
      else match dir.parent? with
        | some q => discoverConfig? fs home q
        | none => userConfig? fs home := by
  have huser : (home.map (·.join (.ofString homeConfig))).toList.find? fs.isFile =
      userConfig? fs home := by
    unfold userConfig?
    cases home with
    | none => rfl
    | some userDir => simp [Option.filter]
  unfold discoverConfig? configCandidates
  rw [dir.ancestors_eq, List.map_cons, List.cons_append, List.find?_cons]
  change (match fs.isFile (configIn dir) with
    | true => some (configIn dir)
    | false => _) = _
  cases fs.isFile (configIn dir) with
  | true => rfl
  | false =>
    cases dir.parent? with
    | none => exact huser
    | some q => rfl

/-- The configuration file that counts on a way up: that of the first directory that has one, or else the
user's. -/
inductive Counts (fs : FileSystem) (home : Option Path) (chain : List Path) : Option Path → Prop
  | nearest {nearer farther : List Path} {dir : Path} (split : chain = nearer ++ dir :: farther)
      (file : fs.isFile (configIn dir) = true)
      (first : ∀ d ∈ nearer, fs.isFile (configIn d) = false) :
      Counts fs home chain (some (configIn dir))
  | user {userDir : Path} (nowhere : ∀ d ∈ chain, fs.isFile (configIn d) = false)
      (known : home = some userDir) (file : fs.isFile (userDir.join (.ofString homeConfig)) = true) :
      Counts fs home chain (some (userDir.join (.ofString homeConfig)))
  | nothing (nowhere : ∀ d ∈ chain, fs.isFile (configIn d) = false)
      (missing : ∀ userDir, home = some userDir →
        fs.isFile (userDir.join (.ofString homeConfig)) = false) :
      Counts fs home chain none

namespace Counts

variable {chain : List Path} {dir : Path} {found : Option Path}

/-- After the last directory the user's file counts. -/
theorem nil_iff : Counts fs home [] found ↔ userConfig? fs home = found := by
  unfold userConfig?
  constructor
  · intro h
    cases h with
    | nearest split => simp at split
    | user nowhere known file => simp [known, Option.filter, file]
    | nothing nowhere missing =>
      cases home with
      | none => rfl
      | some userDir => simp [Option.filter, missing userDir rfl]
  · rintro rfl
    cases home with
    | none => exact .nothing (by simp) (by simp)
    | some userDir =>
      cases hfile : fs.isFile (userDir.join (.ofString homeConfig)) with
      | true =>
        have huser := @Counts.user fs (some userDir) [] userDir (by simp) rfl hfile
        simpa [Option.filter, hfile] using huser
      | false =>
        have hnothing : Counts fs (some userDir) [] none := .nothing (by simp) (by simp [hfile])
        simpa [Option.filter, hfile] using hnothing

/-- The file of the first directory counts before all others. -/
theorem cons_iff_of_file (h : fs.isFile (configIn dir) = true) :
    Counts fs home (dir :: chain) found ↔ some (configIn dir) = found := by
  constructor
  · intro hcounts
    cases hcounts with
    | @nearest nearer farther other split file first =>
      cases nearer with
      | nil =>
        cases split
        rfl
      | cons d nearer =>
        cases split
        rw [first dir List.mem_cons_self] at h
        cases h
    | user nowhere =>
      rw [nowhere dir List.mem_cons_self] at h
      cases h
    | nothing nowhere =>
      rw [nowhere dir List.mem_cons_self] at h
      cases h
  · rintro rfl
    exact @Counts.nearest fs home _ [] chain dir rfl h (by simp)

/-- A directory without a file changes nothing. -/
theorem cons_iff_of_no_file (h : fs.isFile (configIn dir) = false) :
    Counts fs home (dir :: chain) found ↔ Counts fs home chain found := by
  constructor
  · intro hcounts
    cases hcounts with
    | @nearest nearer farther other split file first =>
      cases nearer with
      | nil =>
        cases split
        rw [h] at file
        cases file
      | cons d nearer =>
        cases split
        exact .nearest rfl file (List.forall_mem_cons.mp first).2
    | user nowhere known file => exact .user (List.forall_mem_cons.mp nowhere).2 known file
    | nothing nowhere missing => exact .nothing (List.forall_mem_cons.mp nowhere).2 missing
  · intro hcounts
    cases hcounts with
    | @nearest nearer farther other split file first =>
      have hsplit : dir :: chain = (dir :: nearer) ++ other :: farther := by
        rw [split]
        rfl
      exact .nearest hsplit file (List.forall_mem_cons.mpr ⟨h, first⟩)
    | user nowhere known file => exact .user (List.forall_mem_cons.mpr ⟨h, nowhere⟩) known file
    | nothing nowhere missing => exact .nothing (List.forall_mem_cons.mpr ⟨h, nowhere⟩) missing

end Counts

/-- The search finds the file that counts on its way up. -/
theorem discoverConfig?_eq_iff {start : Path} {chain : List Path} (h : start.Ascent chain)
    (found : Option Path) : discoverConfig? fs home start = found ↔ Counts fs home chain found := by
  -- One turn of the search for each directory on the way up.
  induction h with
  | @top p top =>
    rw [discoverConfig?_eq, top]
    cases hfile : fs.isFile (configIn p) with
    | true => rw [if_pos rfl, Counts.cons_iff_of_file hfile]
    | false => rw [if_neg Bool.false_ne_true, Counts.cons_iff_of_no_file hfile, Counts.nil_iff]
  | @up p q above parent rest ih =>
    rw [discoverConfig?_eq, parent]
    cases hfile : fs.isFile (configIn p) with
    | true => rw [if_pos rfl, Counts.cons_iff_of_file hfile]
    | false => rw [if_neg Bool.false_ne_true, Counts.cons_iff_of_no_file hfile, ih]

/-- The search goes no farther than to a directory with a file, whoever the user is. -/
theorem exists_nearest {start : Path} {nearer farther : List Path} {dir : Path}
    (h : start.Ascent (nearer ++ dir :: farther)) (file : fs.isFile (configIn dir) = true) :
    ∃ d ∈ nearer ++ [dir], ∀ home, discoverConfig? fs home start = some (configIn d) := by
  obtain ⟨d, hfind⟩ : ∃ d, (nearer ++ [dir]).find? (fun d => fs.isFile (configIn d)) = some d := by
    rw [← Option.isSome_iff_exists, List.find?_isSome]
    exact ⟨dir, by simp, file⟩
  obtain ⟨hfile, before, after, hsplit, hfirst⟩ := List.find?_eq_some_iff_append.mp hfind
  have hchain : nearer ++ dir :: farther = before ++ d :: (after ++ farther) := by
    calc nearer ++ dir :: farther = (nearer ++ [dir]) ++ farther := by simp
      _ = before ++ d :: (after ++ farther) := by simp [hsplit]
  refine ⟨d, List.mem_of_find?_eq_some hfind, fun home => (discoverConfig?_eq_iff h _).mpr ?_⟩
  exact .nearest hchain hfile fun other hother => by simpa using hfirst other hother

/-! ### Loading -/

variable {σ : Type}

/-- What comes of loading a configuration from a file that was found, or of having found none. -/
def loaded (w : World σ) : Option Path → Outcome σ (Except Failure (Option Configuration))
  | none => ⟨.ok none, [], w⟩
  | some path =>
    ⟨(Configuration.ofFile w.files path).map some,
      [⟨.debug, .configuration, "using discovered config", [("config", .plain path.display)]⟩], w⟩

theorem loadConfiguration_none (home : Option Path) (w : World σ) :
    loadConfiguration home none w = loaded w (discoverConfig? w.files home w.files.currentPath) := by
  change (match discoverConfig? w.files home w.files.currentPath with
    | none => _
    | some path => _ : Action σ _) w = _
  cases discoverConfig? w.files home w.files.currentPath with
  | none => rfl
  | some path => rfl

/-- **The nearest configuration file counts, and the search for it ends.** From each path, absolute or
relative and however it is written, the way up leads over one directory for each component to the root
or the empty path. What is found is the file of the first directory on the way that has one; where none
has, the user's file, if the user has a home directory and there is one in it; and else nothing. So is
what is loaded where no file is named. A directory with a file on the way up from the working directory is
as far as the search goes: the file that is loaded is in it or in one before it, and never that of a
user, whatever the home directory is. -/
theorem nearest_config_counts (home : Option Path) (w : World σ) :
    (∀ start : Path, ∃ chain, start.Ascent chain ∧
      (∃ top, chain.getLast? = some top ∧
        top.components = if start.isAbsolute then [.root] else []) ∧
      chain.length = start.components.length + (if start.isAbsolute then 0 else 1) ∧
      ∀ found, discoverConfig? w.files home start = found ↔ Counts w.files home chain found) ∧
    ∀ chain, w.files.currentPath.Ascent chain →
      (∀ found, Counts w.files home chain found → loadConfiguration home none w = loaded w found) ∧
      ∀ nearer dir farther, chain = nearer ++ dir :: farther →
        w.files.isFile (configIn dir) = true →
        ∃ d ∈ nearer ++ [dir], ∀ other,
          loadConfiguration other none w = loaded w (some (configIn d)) := by
  refine ⟨fun start => ?_, fun chain ascent => ⟨fun found counts => ?_, ?_⟩⟩
  · have ascent := start.ascent_ancestors
    exact ⟨start.ancestors, ascent, ascent.exists_top, ascent.length_eq, discoverConfig?_eq_iff ascent⟩
  · rw [loadConfiguration_none, (discoverConfig?_eq_iff ascent found).mpr counts]
  · rintro nearer dir farther rfl file
    obtain ⟨d, hd, hfound⟩ := exists_nearest ascent file
    exact ⟨d, hd, fun other => by rw [loadConfiguration_none, hfound]⟩

end KeywordDocs
