import KeywordDocs.Library.Reference
import KeywordDocs.Proofs.Encoding
import KeywordDocs.Proofs.Filling

/-!
# Keys of files and keys of modules

Files and modules share one directory of libdocs. The key of a file is its stem and a fingerprint of
its path; the key of a module is its name. A stem holds no separator (`slash_notMem_logicalName`),
so the key of a file names an entry of the directory. But it is a possible name of a module as well,
of one that ends in a fingerprint (`kind_cacheKey`), and that module has the key of the file.
`artifactPath_eq_iff` and `location_ne_of_name_ne` say when two keys lead to one path and to one entry.
-/

namespace KeywordDocs

/-! ### Stems -/

/-- A list that ends in no separator ends in the end of its last piece. -/
theorem Text.exists_split_concat {α : Type} [DecidableEq α] {sep c : α} (h : c ≠ sep)
    (front : List α) : ∃ before piece, split sep (front ++ [c]) = before ++ [piece ++ [c]] := by
  induction front with
  | nil => exact ⟨[], [], by simp [split, h]⟩
  | cons d front ih =>
    obtain ⟨before, piece, hsplit⟩ := ih
    rw [List.cons_append, split, hsplit]
    by_cases hd : d = sep
    · exact ⟨[] :: before, piece, by rw [if_pos hd]; rfl⟩
    · rw [if_neg hd]
      cases before with
      | nil => exact ⟨[], d :: piece, rfl⟩
      | cons first before => exact ⟨(d :: first) :: before, piece, rfl⟩

namespace PathText

variable {α : Type} [DecidableEq α] [PathAlphabet α]

open PathAlphabet

/-- A path that ends neither in a separator nor in a dot has a file name. -/
theorem exists_fileName? (front : List α) {c : α} (hslash : c ≠ slash) (hdot : c ≠ dot) :
    ∃ name, fileName? (front ++ [c]) = some name ∧ slash ∉ name := by
  obtain ⟨before, piece, hsplit⟩ := Text.exists_split_concat hslash front
  have hparts : (Text.split slash (front ++ [c])).reverse = (piece ++ [c]) :: before.reverse := by
    rw [hsplit, List.reverse_append]
    rfl
  have hname : piece ++ [c] ≠ [dot] ∧ piece ++ [c] ≠ [dot, dot] := by
    have hlast : (piece ++ [c]).getLast? ≠ some dot := by
      rw [List.getLast?_concat]
      exact fun h => hdot (Option.some.inj h)
    constructor
    · intro h
      exact hlast (congrArg List.getLast? h)
    · intro h
      exact hlast (congrArg List.getLast? h)
  have hcounts : counts before.reverse.isEmpty (piece ++ [c]) = true := by
    simp [counts, hname.1]
  refine ⟨piece ++ [c], ?_, ?_⟩
  · rw [fileName?, reversedParts, hparts, dropIdle, if_pos hcounts]
    simp only [hname.1, hname.2, or_self, if_false]
  · have hmem : piece ++ [c] ∈ Text.split slash (front ++ [c]) := by
      rw [hsplit]
      exact List.mem_append_right _ (List.mem_singleton_self _)
    exact Text.notMem_of_mem_split hmem

/-- A stem is a front of the file name. -/
theorem stem_prefix (name : List α) : (stemAndExtension name).1 <+: name := by
  unfold stemAndExtension
  split
  · exact List.prefix_rfl
  · exact List.prefix_rfl
  · rename_i extension rest hne hsplit
    dsimp only
    split
    · exact List.prefix_rfl
    · have hname : Text.split dot name = rest.reverse ++ [extension] := by
        rw [← List.reverse_inj, hsplit]
        simp
      have hrest : rest.reverse ≠ [] := by
        rw [Ne, List.reverse_eq_nil_iff]
        rintro rfl
        exact hne rfl
      have hjoin := Text.join_split dot name
      rw [hname, Text.join_append hrest (List.cons_ne_nil _ _)] at hjoin
      exact ⟨_, hjoin⟩

end PathText

/-! ### Texts of references -/

theorem Text.lowerChar_ne_nil (c : Char) : lowerChar c ≠ [] := by
  unfold lowerChar
  split
  · exact List.cons_ne_nil _ _
  · split
    · exact List.cons_ne_nil _ _
    · exact List.cons_ne_nil _ _

theorem Text.getLast?_lowercase (front : List Char) (c : Char) :
    (lowercase (front ++ [c])).getLast? = (lowerChar c).getLast? := by
  rw [lowercase, List.flatMap_append, List.flatMap_singleton,
    List.getLast?_append_of_ne_nil _ (lowerChar_ne_nil c)]

namespace Reference

variable {r : Reference}

/-- The lowercase of a path to a source file ends in `y`. -/
theorem getLast?_lowercase_of_physical (h : r.kind = .physical) :
    (Text.lowercase r.raw.toList).getLast? = some 'y' := by
  have hsuffix : sourceSuffix <:+ Text.lowercase r.raw.toList := by
    by_contra hnot
    rw [kind, if_neg (fun hs => hnot (List.isSuffixOf_iff_suffix.mp hs))] at h
    cases h
  obtain ⟨before, hbefore⟩ := hsuffix
  rw [← hbefore, List.getLast?_append_of_ne_nil _ (by decide)]
  rfl

/-- A path to a source file ends neither in a separator nor in a dot. -/
theorem exists_last_of_physical (h : r.kind = .physical) :
    ∃ front c, r.raw.toList = front ++ [c] ∧ c ≠ '/' ∧ c ≠ '.' := by
  have hlast := getLast?_lowercase_of_physical h
  induction hraw : r.raw.toList using List.reverseRecOn with
  | nil =>
    rw [hraw] at hlast
    cases hlast
  | append_singleton front c =>
    rw [hraw, Text.getLast?_lowercase] at hlast
    refine ⟨front, c, rfl, ?_, ?_⟩
    · rintro rfl
      exact absurd hlast (by decide)
    · rintro rfl
      exact absurd hlast (by decide)

/-- The name under which a file is loaded holds no separator. -/
theorem slash_notMem_logicalName (h : r.kind = .physical) : '/' ∉ r.logicalName.toList := by
  obtain ⟨front, c, hraw, hslash, hdot⟩ := exists_last_of_physical h
  obtain ⟨name, hname, hnot⟩ := PathText.exists_fileName? front hslash hdot
  have hlogical : r.logicalName = String.ofList (PathText.stemAndExtension name).1 := by
    rw [logicalName, h, hraw, PathText.fileStem?, hname]
    rfl
  rw [hlogical, String.toList_ofList]
  exact fun hmem => hnot ((PathText.stem_prefix name).subset hmem)

end Reference

/-! ### Fingerprints -/

theorem Sha256.length_bigEndian (count n : Nat) : (bigEndian count n).length = count := by
  induction count with
  | zero => rfl
  | succ count ih => rw [bigEndian, List.length_cons, ih]

theorem Sha256.length_digest (message : Bytes) : (digest message).length = 32 := by
  simp [digest, length_bigEndian]

theorem Sha256.length_hex (bs : Bytes) : (hex bs).toList.length = 2 * bs.length := by
  rw [hex, String.toList_ofList]
  induction bs with
  | nil => rfl
  | cons b bs ih =>
    rw [List.flatMap_cons, List.length_append, ih, List.length_cons]
    simp only [List.length_cons, List.length_nil]
    omega

theorem Sha256.digit_of_mem_hex {bs : Bytes} {c : Char} (h : c ∈ (hex bs).toList) :
    ∃ d < 16, c = Nat.digitChar d := by
  rw [hex, String.toList_ofList, List.mem_flatMap] at h
  obtain ⟨b, _, hc⟩ := h
  have hb := b.toNat_lt
  rcases List.mem_pair.mp hc with rfl | rfl
  · exact ⟨_, by omega, rfl⟩
  · exact ⟨_, by omega, rfl⟩

namespace Reference

variable {r : Reference}

theorem length_fingerprint (r : Reference) : r.fingerprint.toList.length = 16 := by
  rw [fingerprint, Sha256.length_hex, List.length_take, Sha256.length_digest]
  rfl

theorem slash_notMem_fingerprint (r : Reference) : '/' ∉ r.fingerprint.toList := by
  intro hmem
  obtain ⟨d, hd, hslash⟩ := Sha256.digit_of_mem_hex hmem
  have hdigit : ∀ d < 16, '/' ≠ Nat.digitChar d := by decide
  exact hdigit d hd hslash

/-! ### Keys -/

theorem cacheKey_of_physical (h : r.kind = .physical) :
    r.cacheKey = r.logicalName ++ "-" ++ r.fingerprint := by
  rw [cacheKey, h]

theorem cacheKey_of_named (h : r.kind = .named) : r.cacheKey = r.raw := by
  rw [cacheKey, h]

theorem slash_notMem_cacheKey (h : r.kind = .physical) : '/' ∉ r.cacheKey.toList := by
  rw [cacheKey_of_physical h, String.toList_append, String.toList_append, List.mem_append,
    List.mem_append]
  rintro ((hmem | hmem) | hmem)
  · exact slash_notMem_logicalName h hmem
  · exact absurd hmem (by decide)
  · exact slash_notMem_fingerprint r hmem

/-- The key of a file is a name that a module can have: it ends in a digit of the fingerprint. -/
theorem kind_cacheKey (h : r.kind = .physical) : (Reference.mk r.cacheKey).kind = .named := by
  cases hkind : (Reference.mk r.cacheKey).kind with
  | named => rfl
  | physical =>
    have hlast := getLast?_lowercase_of_physical hkind
    have hlength := length_fingerprint r
    induction hprint : r.fingerprint.toList using List.reverseRecOn with
    | nil =>
      rw [hprint] at hlength
      cases hlength
    | append_singleton front c =>
      have hmem : c ∈ r.fingerprint.toList := by
        rw [hprint]
        exact List.mem_append_right _ (List.mem_singleton_self c)
      obtain ⟨d, hd, rfl⟩ := Sha256.digit_of_mem_hex hmem
      have hdigit : ∀ d < 16, (Text.lowerChar (Nat.digitChar d)).getLast? ≠ some 'y' := by decide +kernel
      refine absurd ?_ (hdigit d hd)
      rw [← hlast, cacheKey_of_physical h, String.toList_append, hprint, ← List.append_assoc,
        Text.getLast?_lowercase]

end Reference

/-! ### Paths of libdocs -/

namespace PathText

variable {α : Type} [DecidableEq α] [PathAlphabet α]

open PathAlphabet

/-- What is added to a name is added to its path. -/
theorem join_append (dir : List α) {name : List α} (hne : name ≠ []) (ending : List α) :
    join dir (name ++ ending) = join dir name ++ ending := by
  have habsolute : isAbsolute (name ++ ending) = isAbsolute name := by
    obtain ⟨c, cs, rfl⟩ := List.exists_cons_of_ne_nil hne
    rfl
  simp only [join, habsolute]
  split
  · rfl
  · split
    · rw [List.append_assoc]
    · rw [List.append_assoc, List.cons_append]

theorem join_of_absolute (dir : List α) {name : List α} (h : isAbsolute name = true) :
    join dir name = name := by
  rw [join, if_pos h]

/-- Different relative paths lead to different places in a directory. -/
theorem join_left_injective (dir : List α) {name other : List α} (hname : isAbsolute name = false)
    (hother : isAbsolute other = false) : join dir name = join dir other ↔ name = other := by
  simp only [join, hname, hother, Bool.false_eq_true, if_false]
  split
  · exact List.append_right_inj dir
  · rw [List.append_right_inj, List.cons.injEq]
    exact and_iff_right rfl

end PathText

theorem artifactPath_bytes (cacheDir : Path) (key : String) :
    (artifactPath cacheDir key).bytes =
      PathText.join cacheDir.bytes (Utf8.encode key ++ Utf8.encode ".xml") := by
  rw [← Utf8.encode_append]
  rfl

section Artifacts

variable {key name : String}

theorem slash_notMem_encode (h : '/' ∉ key.toList) : (47 : UInt8) ∉ Utf8.encode key := by
  rwa [Utf8.mem_encode_iff (c := '/') (by decide) (by decide)]

theorem isAbsolute_artifact (h : PathText.isAbsolute (Utf8.encode key) = false) :
    PathText.isAbsolute (Utf8.encode key ++ Utf8.encode ".xml") = false := by
  cases hkey : Utf8.encode key with
  | nil => decide
  | cons b bs =>
    rw [hkey] at h
    exact h

/-- Two libdocs are kept at one path when their keys are the same, or when one key is absolute and is the
path itself. -/
theorem artifactPath_eq_iff (hkey : '/' ∉ key.toList) (hne : Utf8.encode key ≠ []) (cacheDir : Path) :
    artifactPath cacheDir key = artifactPath cacheDir name ↔
      name = key ∨
        (Path.ofString name).isAbsolute = true ∧
          Path.ofString name = cacheDir.join (.ofString key) := by
  have hrelative : PathText.isAbsolute (Utf8.encode key) = false :=
    PathText.isAbsolute_of_notMem (slash_notMem_encode hkey)
  have hpath : artifactPath cacheDir key = artifactPath cacheDir name ↔
      PathText.join cacheDir.bytes (Utf8.encode key ++ Utf8.encode ".xml") =
        PathText.join cacheDir.bytes (Utf8.encode name ++ Utf8.encode ".xml") := by
    rw [← artifactPath_bytes, ← artifactPath_bytes]
    exact ⟨congrArg Path.bytes, congrArg Path.mk⟩
  have hjoined : Path.ofString name = cacheDir.join (.ofString key) ↔
      PathText.join cacheDir.bytes (Utf8.encode key) = Utf8.encode name :=
    ⟨fun h => (congrArg Path.bytes h).symm, fun h => congrArg Path.mk h.symm⟩
  rw [hpath, hjoined, Path.isAbsolute, Path.ofString]
  cases habsolute : PathText.isAbsolute (Utf8.encode name) with
  | true =>
    -- An absolute name stands for itself, wherever the directory is.
    have hname : Utf8.encode name ≠ [] := by
      intro hnil
      rw [hnil] at habsolute
      cases habsolute
    have hdifferent : name ≠ key := by
      rintro rfl
      rw [hrelative] at habsolute
      cases habsolute
    rw [PathText.join_append _ hne, PathText.join_append _ hname, PathText.join_of_absolute _ habsolute,
      List.append_left_inj, or_iff_right hdifferent, and_iff_right rfl]
  | false =>
    rw [PathText.join_left_injective _ (isAbsolute_artifact hrelative) (isAbsolute_artifact habsolute),
      List.append_left_inj, Utf8.encode_injective.eq_iff, eq_comm, or_iff_left]
    rintro ⟨h, _⟩
    cases h

/-- A name with the ending of libdocs is one that an entry of a directory can have. -/
theorem isPlain_append_xml {name : Bytes} (h : (47 : UInt8) ∉ name) :
    Path.IsPlain (name ++ Utf8.encode ".xml") := by
  have hlength : 4 ≤ (name ++ Utf8.encode ".xml").length := by
    rw [List.length_append]
    exact Nat.le_add_left 4 _
  refine ⟨?_, ?_, ?_⟩
  · rw [List.mem_append]
    rintro (hmem | hmem)
    · exact h hmem
    · exact absurd hmem (by decide)
  · rintro (heq | heq)
    · rw [heq] at hlength
      exact absurd hlength (by decide)
    · rw [heq] at hlength
      exact absurd hlength (by decide)
  · intro heq
    rw [heq] at hlength
    exact absurd hlength (by decide)

theorem isPlain_artifact (h : '/' ∉ key.toList) : Path.IsPlain (Utf8.encode (key ++ ".xml")) := by
  rw [Utf8.encode_append]
  exact isPlain_append_xml (slash_notMem_encode h)

end Artifacts

/-- Entries of one directory with different names are different. -/
theorem FileSystem.location_ne_of_name_ne {fs : FileSystem} {dir : Path} {name other : Bytes}
    {k k' : Location} {e e' : Entry} (plain : Path.IsPlain name) (plain' : Path.IsPlain other)
    (hne : name ≠ other) (h : fs.locate false (dir.join ⟨name⟩) = .ok (.taken k e))
    (h' : fs.locate false (dir.join ⟨other⟩) = .ok (.taken k' e')) : k ≠ k' := by
  obtain ⟨front, hparts⟩ := exists_parts_join dir
  obtain ⟨usable, hleads⟩ := locate_eq_ok_iff.mp h
  obtain ⟨usable', -⟩ := locate_eq_ok_iff.mp h'
  rw [start_join fs dir plain, hparts name plain] at hleads
  obtain ⟨d, t, leads⟩ := hleads.front (not_isLast_name plain)
  have hat : ∀ {n : Bytes} {l : Location} {x : Entry}, Path.IsPlain n → Usable (dir.join ⟨n⟩) →
      fs.locate false (dir.join ⟨n⟩) = .ok (.taken l x) → l = d ++ [n] := by
    intro n l x plain usable hlocate
    rw [locate_child leads plain (hparts n plain) usable (fun h => by cases h)] at hlocate
    rcases named_eq_ok hlocate with heq | ⟨_, heq⟩
    · cases heq
    · exact (Spot.taken.inj heq).1
  rintro rfl
  have hsame := (hat plain usable h).symm.trans (hat plain' usable' h')
  exact hne (List.cons.inj (List.append_cancel_left hsame)).1

end KeywordDocs
