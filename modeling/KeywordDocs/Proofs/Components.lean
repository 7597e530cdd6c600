import Mathlib.Data.List.DropRight
import KeywordDocs.Proofs.Generated
import KeywordDocs.Proofs.Keys

/-!
# Where libdocs are kept

A path is told by its components: the root or the current directory that it starts from, and then the
names and the `..` that it goes through. A key is joined to the cache directory as it is, so the
libdoc of a module lies in the folder that the name of the module itself gives, seen from the cache
directory (`components_artifactPath`). For a name without a separator that is the cache directory.
`libdoc_in_cacheDir_iff` says when it is for the others.
-/

namespace KeywordDocs

/-! ### Components -/

/-- A step of a path. -/
inductive PathText.Component (α : Type) where
  /-- The root directory, at the front of an absolute path. -/
  | root
  /-- The current directory, where it is written at the front. -/
  | current
  /-- The directory above. -/
  | parent
  | normal (name : List α)
  deriving DecidableEq, Repr

namespace PathText

variable {α : Type} [DecidableEq α] [PathAlphabet α]

open PathAlphabet

/-- The component that a part of a path stands for. Empty parts and `.` parts stand for none. -/
def component? (part : List α) : Option (Component α) :=
  if part = [] ∨ part = [dot] then none
  else if part = [dot, dot] then some .parent
  else some (.normal part)

/-- The component that a path starts with before its names, if it has one. -/
def origin (p : List α) : List (Component α) :=
  if isAbsolute p then [.root]
  else if (Text.split slash p).head? = some [dot] then [.current]
  else []

/-- The components of a path. -/
def components (p : List α) : List (Component α) :=
  origin p ++ (Text.split slash p).filterMap component?

/-- The path up to its last separator. -/
def folder (p : List α) : List α := p.rdropWhile (· ≠ slash)

/-- What stands behind the last separator of a path. -/
def leaf (p : List α) : List α := p.rtakeWhile (· ≠ slash)

/-- A path that is empty or ends in the separator, so that a name can be written behind it. -/
def IsFolder (p : List α) : Prop := p = [] ∨ p.getLast? = some slash

theorem component?_eq_none_iff {part : List α} :
    component? part = none ↔ part = [] ∨ part = [dot] := by
  unfold component?
  split
  · rename_i hidle
    exact iff_of_true rfl hidle
  · rename_i hidle
    refine iff_of_false ?_ hidle
    split <;> simp

/-- Only the empty path has no components. -/
theorem components_eq_nil_iff {p : List α} : components p = [] ↔ p = [] := by
  cases p with
  | nil => exact iff_of_true rfl rfl
  | cons c cs =>
    refine iff_of_false (fun hnil => ?_) (List.cons_ne_nil c cs)
    rw [components, List.append_eq_nil_iff] at hnil
    obtain ⟨horigin, hparts⟩ := hnil
    by_cases hc : c = slash
    · have habsolute : isAbsolute (c :: cs) = true := by simp [isAbsolute, hc]
      rw [origin, if_pos habsolute] at horigin
      cases horigin
    · -- The first part is not empty, so that it counts even if it is a dot.
      obtain ⟨piece, rest, hsplit⟩ : ∃ piece rest, Text.split slash (c :: cs) = (c :: piece) :: rest := by
        rw [Text.split, if_neg hc]
        cases Text.split slash cs with
        | nil => exact ⟨[], [], rfl⟩
        | cons piece rest => exact ⟨piece, rest, rfl⟩
      have hidle := List.filterMap_eq_nil_iff.mp hparts (c :: piece) (by simp [hsplit])
      rcases component?_eq_none_iff.mp hidle with hempty | hdot
      · cases hempty
      · have hrelative : isAbsolute (c :: cs) = false := by simp [isAbsolute, hc]
        rw [origin, hrelative, if_neg Bool.false_ne_true, hsplit, hdot, List.head?_cons, if_pos rfl]
          at horigin
        cases horigin

theorem isAbsolute_append {p : List α} (h : p ≠ []) (q : List α) :
    isAbsolute (p ++ q) = isAbsolute p := by
  obtain ⟨c, cs, rfl⟩ := List.exists_cons_of_ne_nil h
  rfl

/-- Behind a separator all parts are names, also those that would be idle at the front. -/
theorem components_append {dir : List α} (h : dir.getLast? = some slash) (rel : List α) :
    components (dir ++ rel) = components dir ++ (Text.split slash rel).filterMap component? := by
  obtain ⟨cs, rfl⟩ := List.getLast?_eq_some_iff.mp h
  have hsplit : Text.split slash (cs ++ [slash] ++ rel) =
      Text.split slash cs ++ Text.split slash rel := by
    rw [List.append_assoc]
    exact Text.split_append_sep cs rel
  have hsplit' : Text.split slash (cs ++ [slash]) = Text.split slash cs ++ [[]] :=
    Text.split_append_sep cs []
  have horigin : origin (cs ++ [slash] ++ rel) = origin (cs ++ [slash]) := by
    have hne := Text.split_ne_nil slash cs
    rw [origin, origin, isAbsolute_append (by simp), hsplit, hsplit', List.head?_append_of_ne_nil _ hne,
      List.head?_append_of_ne_nil _ hne]
  have hidle : [([] : List α)].filterMap component? = [] := rfl
  rw [components, components, horigin, hsplit, hsplit', List.filterMap_append, List.filterMap_append,
    hidle, List.append_nil, List.append_assoc]

/-- A separator behind a path changes no component. -/
theorem components_concat_slash {dir : List α} (h : dir ≠ []) :
    components (dir ++ [slash]) = components dir := by
  have hsplit : Text.split slash (dir ++ [slash]) = Text.split slash dir ++ [[]] :=
    Text.split_append_sep dir []
  have hidle : [([] : List α)].filterMap component? = [] := rfl
  rw [components, components, origin, origin, isAbsolute_append h, hsplit,
    List.head?_append_of_ne_nil _ (Text.split_ne_nil slash dir), List.filterMap_append, hidle,
    List.append_nil]

/-- A relative path seen from a directory: its parts follow those of the directory. -/
theorem components_join {dir rel : List α} (hdir : dir ≠ []) (hrel : isAbsolute rel = false) :
    components (join dir rel) = components dir ++ (Text.split slash rel).filterMap component? := by
  rw [join, hrel, if_neg Bool.false_ne_true]
  split
  · rename_i hfolder
    exact components_append (hfolder.resolve_left hdir) rel
  · rw [← components_concat_slash hdir, ← components_append (by simp), List.append_assoc]
    rfl

/-! ### Folders -/

theorem folder_append_leaf (p : List α) : folder p ++ leaf p = p :=
  List.rdropWhile_append_rtakeWhile

theorem slash_notMem_leaf (p : List α) : slash ∉ leaf p := by
  intro hmem
  have hslash := List.mem_rtakeWhile_imp hmem
  simp at hslash

theorem isFolder_folder (p : List α) : IsFolder (folder p) := by
  by_cases hne : folder p = []
  · exact .inl hne
  · have hlast : ¬ decide ((folder p).getLast hne ≠ slash) = true :=
      List.rdropWhile_last_not (fun c => decide (c ≠ slash)) p hne
    refine .inr ?_
    rw [List.getLast?_eq_some_getLast hne]
    simpa using hlast

theorem folder_eq_nil_iff {p : List α} : folder p = [] ↔ slash ∉ p := by
  rw [folder, List.rdropWhile_eq_nil_iff]
  simp only [ne_eq, decide_not, Bool.not_eq_true', decide_eq_false_iff_not]
  exact ⟨fun h hmem => h slash hmem rfl, fun h x hx hslash => h (hslash ▸ hx)⟩

theorem isAbsolute_folder (p : List α) : isAbsolute (folder p) = isAbsolute p := by
  by_cases hne : folder p = []
  · rw [hne, isAbsolute_of_notMem (folder_eq_nil_iff.mp hne)]
    rfl
  · rw [← isAbsolute_append hne (leaf p), folder_append_leaf]

section Folder

variable {front name : List α} (hfront : IsFolder front) (hname : slash ∉ name)
include hfront

theorem IsFolder.join (dir : List α) : IsFolder (PathText.join dir front) := by
  rcases hfront with rfl | hlast
  · by_cases hdir : dir = [] ∨ dir.getLast? = some slash
    · have hjoin : PathText.join dir [] = dir := by simp [PathText.join, isAbsolute, hdir]
      rwa [hjoin]
    · have hjoin : PathText.join dir [] = dir ++ [slash] := by
        simp [PathText.join, isAbsolute, hdir]
      exact .inr (by simp [hjoin])
  · have hne : front ≠ [] := by
      rintro rfl
      cases hlast
    refine .inr ?_
    rw [PathText.join]
    split
    · exact hlast
    · split
      · rw [List.getLast?_append_of_ne_nil _ hne, hlast]
      · rw [List.getLast?_append_of_ne_nil _ (List.cons_ne_nil _ _),
          List.getLast?_cons_of_ne_nil hne, hlast]

include hname

/-- A name in a folder, seen from a directory, is the name in the folder seen from the directory. -/
theorem IsFolder.join_append (dir : List α) :
    PathText.join dir (front ++ name) = PathText.join dir front ++ name := by
  by_cases hne : front = []
  · subst hne
    simp only [List.nil_append, PathText.join, isAbsolute_of_notMem hname,
      show isAbsolute ([] : List α) = false from rfl, Bool.false_eq_true, if_false]
    split
    · rw [List.append_nil]
    · rw [List.append_assoc]
      rfl
  · exact PathText.join_append dir hne name

theorem IsFolder.components_append (hnormal : component? name = some (.normal name)) :
    components (front ++ name) = components front ++ [.normal name] := by
  have hparts : (Text.split slash name).filterMap component? = [.normal name] := by
    rw [Text.split_of_notMem hname]
    simp [hnormal]
  rcases hfront with rfl | hlast
  · have horigin : origin name = [] := by
      have hdot : ¬ (Text.split slash name).head? = some [dot] := by
        rw [Text.split_of_notMem hname]
        intro h
        rw [Option.some.inj h, component?_eq_none_iff.mpr (.inr rfl)] at hnormal
        cases hnormal
      rw [origin, isAbsolute_of_notMem hname, if_neg Bool.false_ne_true, if_neg hdot]
    rw [List.nil_append, components, horigin, hparts]
    rfl
  · rw [PathText.components_append hlast, hparts]

end Folder

end PathText

namespace Path

/-- A step of a path of the file system. -/
abbrev Component := PathText.Component UInt8

@[inherit_doc PathText.components]
def components (p : Path) : List Component := PathText.components p.bytes

@[inherit_doc PathText.folder]
def folder (p : Path) : Path := ⟨PathText.folder p.bytes⟩

@[inherit_doc PathText.leaf]
def leaf (p : Path) : Bytes := PathText.leaf p.bytes

/-- The path leads through the directory and from there to one name. -/
def LiesIn (p dir : Path) : Prop := ∃ name, p.components = dir.components ++ [.normal name]

theorem IsPlain.component? {name : Bytes} (h : IsPlain name) :
    PathText.component? name = some (.normal name) := by
  exact (if_neg h.notIdle).trans (if_neg h.notUp)

end Path

/-! ### The places of libdocs -/

section Libdocs

variable {cacheDir : Path} {r : Reference}

/-- A libdoc lies in the folder that its key gives, seen from the cache directory. -/
theorem components_artifactPath (cacheDir : Path) (key : String) :
    (artifactPath cacheDir key).components =
      (cacheDir.join (Path.ofString key).folder).components ++
        [.normal ((Path.ofString key).leaf ++ Utf8.encode ".xml")] := by
  have hfolder := PathText.isFolder_folder (Utf8.encode key)
  have hplain := isPlain_append_xml (PathText.slash_notMem_leaf (Utf8.encode key))
  have hpath : (artifactPath cacheDir key).bytes =
      PathText.join cacheDir.bytes (PathText.folder (Utf8.encode key)) ++
        (PathText.leaf (Utf8.encode key) ++ Utf8.encode ".xml") := by
    rw [artifactPath_bytes, ← hfolder.join_append hplain.noSlash, ← List.append_assoc,
      PathText.folder_append_leaf]
  rw [Path.components, hpath,
    (hfolder.join cacheDir.bytes).components_append hplain.noSlash hplain.component?]
  rfl

theorem artifactPath_liesIn_iff {key : String} :
    (artifactPath cacheDir key).LiesIn cacheDir ↔
      (cacheDir.join (Path.ofString key).folder).components = cacheDir.components := by
  rw [Path.LiesIn, components_artifactPath]
  constructor
  · rintro ⟨name, h⟩
    exact (List.append_inj' h rfl).1
  · intro h
    exact ⟨_, by rw [h]⟩

/-- The libdoc of an absolute key lies in the cache directory when the key itself does. -/
theorem liesIn_of_absolute {key : String} (h : (Path.ofString key).isAbsolute = true) :
    (artifactPath cacheDir key).LiesIn cacheDir ↔
      (Path.ofString key).folder.components = cacheDir.components := by
  have habsolute : PathText.isAbsolute (PathText.folder (Utf8.encode key)) = true := by
    rw [PathText.isAbsolute_folder]
    exact h
  have hjoin : cacheDir.join (Path.ofString key).folder = (Path.ofString key).folder :=
    congrArg Path.mk (PathText.join_of_absolute _ habsolute)
  rw [artifactPath_liesIn_iff, hjoin]

/-- The libdoc of a relative key lies in the cache directory when the folder of the key goes nowhere. -/
theorem liesIn_of_relative {key : String} (h : (Path.ofString key).isAbsolute = false)
    (hdir : cacheDir.bytes ≠ []) :
    (artifactPath cacheDir key).LiesIn cacheDir ↔
      ∀ part ∈ FileSystem.parts (Path.ofString key).folder, part = [] ∨ part = [46] := by
  have hrelative : PathText.isAbsolute (PathText.folder (Utf8.encode key)) = false := by
    rw [PathText.isAbsolute_folder]
    exact h
  have hcomponents := PathText.components_join hdir hrelative
  rw [artifactPath_liesIn_iff]
  change PathText.components (PathText.join cacheDir.bytes (PathText.folder (Utf8.encode key))) = _ ↔ _
  rw [hcomponents, Path.components, List.append_right_eq_self, List.filterMap_eq_nil_iff]
  exact forall₂_congr fun part _ => PathText.component?_eq_none_iff

/-- From the empty path only the names without a separator lead to no other place. -/
theorem liesIn_of_empty {key : String} (hdir : cacheDir.bytes = []) :
    (artifactPath cacheDir key).LiesIn cacheDir ↔ '/' ∉ key.toList := by
  have hbytes : PathText.join cacheDir.bytes (PathText.folder (Utf8.encode key)) =
      PathText.folder (Utf8.encode key) := by
    simp [hdir, PathText.join]
  have hjoin : cacheDir.join (Path.ofString key).folder = (Path.ofString key).folder :=
    congrArg Path.mk hbytes
  have hempty : cacheDir.components = [] := PathText.components_eq_nil_iff.mpr hdir
  have hslash : '/' ∉ key.toList ↔ (47 : UInt8) ∉ Utf8.encode key := by
    rw [Utf8.mem_encode_iff (c := '/') (by decide) (by decide)]
  rw [artifactPath_liesIn_iff, hjoin, hempty, hslash]
  exact PathText.components_eq_nil_iff.trans PathText.folder_eq_nil_iff

/-- The libdoc of a key without a separator lies in the cache directory, wherever that is. -/
theorem liesIn_of_notMem {key : String} (h : '/' ∉ key.toList) (cacheDir : Path) :
    (artifactPath cacheDir key).LiesIn cacheDir := by
  by_cases hdir : cacheDir.bytes = []
  · exact (liesIn_of_empty hdir).mpr h
  · have hslash : (47 : UInt8) ∉ Utf8.encode key := slash_notMem_encode h
    have hfolder : (Path.ofString key).folder = ⟨[]⟩ :=
      congrArg Path.mk (PathText.folder_eq_nil_iff.mpr hslash)
    refine (liesIn_of_relative (PathText.isAbsolute_of_notMem hslash) hdir).mpr ?_
    rw [hfolder]
    intro part hpart
    exact .inl (List.mem_singleton.mp hpart)

end Libdocs

/-- A record reports no libdoc at another path than that of the key. -/
theorem Interpreter.reported_path {σ : Type} {loader : ModuleLoader σ} {i : Interpreter}
    {machine : Machine σ} {cacheDir path : Path} {registry : Registry} {r : Reference} {w : World σ}
    (h : (Processor.process ⟨loader, i.generator machine⟩ cacheDir registry r w).value.1.xmlLibdocPath =
      some path) : path = artifactPath cacheDir r.cacheKey := by
  have hstep := Processor.process_step ⟨loader, i.generator machine⟩ cacheDir registry r w
  generalize (Processor.process ⟨loader, i.generator machine⟩ cacheDir registry r w).value.1 = record
    at h hstep
  generalize (Processor.process ⟨loader, i.generator machine⟩ cacheDir registry r w).world = after
    at hstep
  cases hstep with
  | unresolved => cases h
  | failed => cases h
  | reused resolve check =>
    cases h
    exact (CacheCheck.look_eq_hit_iff.mp check).1
  | generated resolve check generate =>
    cases h
    exact (Interpreter.generator_eq_ok generate).1

/-- **A libdoc is kept in the cache directory unless the name of its module leads elsewhere.** The libdoc
of a module lies in the folder of the module's name as it is seen from the cache directory. That is
the cache directory itself if the name holds no separator. An absolute name has to lie in the cache
directory already, and a relative one may hold empty and `.` parts only before its last separator; from
the empty path no separator is allowed. No record reports a libdoc at another path. -/
theorem libdoc_in_cacheDir_iff {r : Reference} (hn : r.kind = .named) (cacheDir : Path) :
    let path := artifactPath cacheDir r.cacheKey
    path.components = (cacheDir.join r.path.folder).components ++
      [.normal (r.path.leaf ++ Utf8.encode ".xml")] ∧
    (path.LiesIn cacheDir ↔ (cacheDir.join r.path.folder).components = cacheDir.components) ∧
    ('/' ∉ r.raw.toList → path.LiesIn cacheDir) ∧
    (r.path.isAbsolute = true →
      (path.LiesIn cacheDir ↔ r.path.folder.components = cacheDir.components)) ∧
    (r.path.isAbsolute = false → cacheDir.bytes ≠ [] →
      (path.LiesIn cacheDir ↔ ∀ part ∈ FileSystem.parts r.path.folder, part = [] ∨ part = [46])) ∧
    (cacheDir.bytes = [] → (path.LiesIn cacheDir ↔ '/' ∉ r.raw.toList)) ∧
    ∀ (σ : Type) (loader : ModuleLoader σ) (i : Interpreter) (machine : Machine σ)
      (registry : Registry) (w : World σ) (reported : Path),
      (Processor.process ⟨loader, i.generator machine⟩ cacheDir registry r w).value.1.xmlLibdocPath =
        some reported → reported = path := by
  intro path
  simp only [path, Reference.cacheKey_of_named hn]
  refine ⟨components_artifactPath cacheDir r.raw, artifactPath_liesIn_iff,
    fun h => liesIn_of_notMem h cacheDir, liesIn_of_absolute, liesIn_of_relative, liesIn_of_empty, ?_⟩
  intro σ loader i machine registry w reported h
  rw [← Reference.cacheKey_of_named hn]
  exact Interpreter.reported_path h

/-- The libdoc of `.//foo` is kept in the cache directory, and that of `../evil` beside it. -/
theorem libdoc_in_cacheDir_iff_sample :
    (Reference.mk ".//foo").kind = .named ∧ (Reference.mk "../evil").kind = .named ∧
    (artifactPath (.ofString "cache") (Reference.mk ".//foo").cacheKey).LiesIn (.ofString "cache") ∧
    ¬ (artifactPath (.ofString "cache") (Reference.mk "../evil").cacheKey).LiesIn
      (.ofString "cache") := by
  have hn : (Reference.mk ".//foo").kind = .named := by decide +kernel
  have hn' : (Reference.mk "../evil").kind = .named := by decide +kernel
  have hfoo := (libdoc_in_cacheDir_iff hn (.ofString "cache")).2.2.2.2.1 (by decide) (by decide)
  have hevil := (libdoc_in_cacheDir_iff hn' (.ofString "cache")).2.2.2.2.1 (by decide) (by decide)
  exact ⟨hn, hn', hfoo.mpr (by decide), fun h => absurd (hevil.mp h) (by decide)⟩

namespace Outside

/-- A cache directory, and beside it a file that is not in it. -/
def world : World Unit where
  files :=
    { entries :=
        [([Utf8.encode "cache"], .directory 50),
          ([Utf8.encode "evil.xml"], .file [] FileSystem.plainMode 100)]
      workingDirectory := []
      rootTime := 0
      readsAll := false }
  clock := 0
  host := ()

/-- A loader that finds all modules, without sources. -/
def loader : ModuleLoader Unit where
  loadFile name _ := pure ⟨name, none⟩
  importModule dotted := pure ⟨dotted, none⟩
  hasAttribute _ _ := pure false

end Outside

/-- The module `../evil` of a list is given a libdoc that lies beside the cache directory: what is found
there is reused for it. -/
theorem libdoc_outside_cacheDir :
    let r : Reference := ⟨"../evil"⟩
    let path := artifactPath (.ofString "cache") r.cacheKey
    let record := (Processor.process ⟨Outside.loader, Idle.interpreter.generator Idle.machine⟩
      (.ofString "cache") .empty r Outside.world).value.1
    r ∈ Reference.parseList "../evil" ∧ r.kind = .named ∧
      path = .ofString "cache/../evil.xml" ∧
      (¬ ∃ name, path.components = (Path.ofString "cache").components ++ [.normal name]) ∧
      record.xmlLibdocPath = some path ∧ record.cacheStatus = .hit := by
  refine ⟨by decide +kernel, by decide +kernel, by decide +kernel, ?_, by decide +kernel,
    by decide +kernel⟩
  rintro ⟨name, h⟩
  have hlength := congrArg List.length h
  rw [List.length_append, List.length_singleton] at hlength
  exact absurd hlength (by decide +kernel)

end KeywordDocs
