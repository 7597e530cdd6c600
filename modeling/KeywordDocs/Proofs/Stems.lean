import KeywordDocs.Proofs.Parents

/-!
# Paths of source files and their stems

A reference is a path to a source file if its lowercase ends in `.py`. No character but the letter and
its capital becomes a `p` or a `y`, and none but a dot a dot, so the end of the text itself decides
(`kind_eq_physical_iff`). An ending of three marks is no `.` and no `..`, so such a text always has a file
name, and `toList_logicalName` says which part of the name is its stem. `stem_of_source_file` puts the two
together and follows the stem into the path of the libdoc.
-/

namespace KeywordDocs

/-! ### The ending of a source file -/

namespace Text

variable {c t : Char}

/-- The runs of capitals with a lowercase in ASCII are the letters and the Kelvin sign. -/
theorem caseRun_cases : ∀ run ∈ caseRuns,
    run = ⟨0x41, 0x5A, 1, 0x61⟩ ∨ run = ⟨0x212A, 0x212A, 1, 0x6B⟩ ∨ 0x80 ≤ run.target := by
  decide +kernel

theorem eq_toNat_of_ofNat_eq {n : Nat} (h : Char.ofNat n = t) (ht : t.toNat ≠ 0) : n = t.toNat := by
  by_cases hvalid : n.isValidChar
  · rw [← h, Utf8.toNat_ofNat_of_valid hvalid]
  · rw [Char.ofNat, dif_neg hvalid] at h
    subst h
    exact absurd rfl ht

theorem mem_sourceSuffix_iff : t ∈ Reference.sourceSuffix ↔ t = '.' ∨ t = 'p' ∨ t = 'y' := by
  simp [Reference.sourceSuffix]

/-- Only a character of the ending itself, or its capital, has it in its lowercase. -/
theorem lowerChar_of_mem (ht : t ∈ Reference.sourceSuffix) (h : t ∈ lowerChar c) :
    lowerChar c = [t] ∧ (c = t ∨ c = t.toUpper) := by
  by_cases hdotted : c.toNat = 0x130
  · have hnone : t ∉ ['i', Char.ofNat 0x307] := by
      rcases mem_sourceSuffix_iff.mp ht with rfl | rfl | rfl <;> decide
    rw [lowerChar, if_pos hdotted] at h
    exact absurd h hnone
  · cases hfind : caseRuns.find? (·.covers c.toNat) with
    | none =>
      have hlower : lowerChar c = [c] := by simp [lowerChar, hdotted, hfind]
      rw [hlower, List.mem_singleton] at h
      rw [hlower, h]
      exact ⟨rfl, .inl rfl⟩
    | some run =>
      have hlower : lowerChar c = [Char.ofNat (run.target + (c.toNat - run.first))] := by
        simp [lowerChar, hdotted, hfind]
      rw [hlower, List.mem_singleton] at h
      rw [hlower, ← h]
      have hcovers := List.find?_some hfind
      simp only [CaseRun.covers, Bool.and_eq_true, decide_eq_true_eq] at hcovers
      obtain ⟨hzero, hascii, hk⟩ : t.toNat ≠ 0 ∧ t.toNat < 0x80 ∧ t.toNat ≠ 0x6B := by
        rcases mem_sourceSuffix_iff.mp ht with rfl | rfl | rfl <;> decide
      have hn := eq_toNat_of_ofNat_eq h.symm hzero
      rcases caseRun_cases run (List.mem_of_find?_eq_some hfind) with rfl | rfl | htarget
      · dsimp only at hn hcovers
        have hcapital : 0x61 ≤ t.toNat → Char.ofNat (t.toNat - 32) = t.toUpper := by
          rcases mem_sourceSuffix_iff.mp ht with rfl | rfl | rfl <;> decide
        have hc : c.toNat = t.toNat - 32 := by omega
        refine ⟨rfl, .inr ?_⟩
        rw [← hcapital (by omega), ← hc, Char.ofNat_toNat]
      · dsimp only at hn hcovers
        omega
      · omega

/-- A text whose lowercase ends in a character of the ending ends in that character or its capital. -/
theorem lowercase_eq_concat_iff {cs before : List Char} (ht : t ∈ Reference.sourceSuffix) :
    lowercase cs = before ++ [t] ↔
      ∃ front c, cs = front ++ [c] ∧ (c = t ∨ c = t.toUpper) ∧ lowercase front = before := by
  constructor
  · intro h
    induction cs using List.reverseRecOn with
    | nil =>
      have hlength := congrArg List.length h
      simp [lowercase] at hlength
    | append_singleton front c =>
      have hlast := getLast?_lowercase front c
      rw [h, List.getLast?_concat] at hlast
      obtain ⟨hlower, hc⟩ := lowerChar_of_mem ht (List.mem_of_getLast? hlast.symm)
      rw [lowercase, List.flatMap_append, List.flatMap_singleton, hlower] at h
      exact ⟨front, c, rfl, hc, (List.append_inj' h rfl).1⟩
  · rintro ⟨front, c, rfl, hc, rfl⟩
    have hboth : lowerChar t = [t] ∧ lowerChar t.toUpper = [t] := by
      rcases mem_sourceSuffix_iff.mp ht with rfl | rfl | rfl <;> decide +kernel
    have hlower : lowerChar c = [t] := by
      rcases hc with rfl | rfl
      · exact hboth.1
      · exact hboth.2
    rw [lowercase, List.flatMap_append, List.flatMap_singleton, hlower]
    rfl

end Text

namespace Reference

/-- An ending that makes a text the path of a source file. -/
def IsSourceEnding (ending : List Char) : Prop :=
  ∃ p y, ending = ['.', p, y] ∧ (p = 'p' ∨ p = 'P') ∧ (y = 'y' ∨ y = 'Y')

/-- **The last three characters decide** whether a reference is a path to a source file. -/
theorem kind_eq_physical_iff {r : Reference} :
    r.kind = .physical ↔ ∃ front ending, r.raw.toList = front ++ ending ∧ IsSourceEnding ending := by
  have hsuffix : r.kind = .physical ↔ sourceSuffix <:+ Text.lowercase r.raw.toList := by
    rw [kind, ← List.isSuffixOf_iff_suffix]
    split <;> simp_all
  rw [hsuffix]
  constructor
  · rintro ⟨before, h⟩
    have hall : Text.lowercase r.raw.toList = before ++ ['.'] ++ ['p'] ++ ['y'] := by
      rw [← h]
      simp [sourceSuffix]
    obtain ⟨toP, y, hraw, hy, hrest⟩ := (Text.lowercase_eq_concat_iff (by decide)).mp hall
    obtain ⟨toDot, p, rfl, hp, hrest'⟩ := (Text.lowercase_eq_concat_iff (by decide)).mp hrest
    obtain ⟨front, d, rfl, hd, _⟩ := (Text.lowercase_eq_concat_iff (by decide)).mp hrest'
    obtain rfl : d = '.' := hd.elim id id
    exact ⟨front, ['.', p, y], by simp [hraw], p, y, rfl, hp, hy⟩
  · rintro ⟨front, ending, hraw, p, y, rfl, hp, hy⟩
    refine ⟨Text.lowercase front, ?_⟩
    have hdot := (Text.lowercase_eq_concat_iff (t := '.') (by decide)).mpr
      ⟨front, '.', rfl, .inl rfl, rfl⟩
    have hp := (Text.lowercase_eq_concat_iff (t := 'p') (by decide)).mpr ⟨_, p, rfl, hp, hdot⟩
    have hy := (Text.lowercase_eq_concat_iff (t := 'y') (by decide)).mpr ⟨_, y, rfl, hy, hp⟩
    rw [hraw]
    simpa [sourceSuffix] using hy.symm

end Reference

/-! ### The last part of a path -/

namespace PathText

variable {α : Type} [DecidableEq α] [PathAlphabet α]

open PathAlphabet

theorem leaf_append {name : List α} (h : slash ∉ name) (front : List α) :
    leaf (front ++ name) = leaf front ++ name := by
  have hname : ∀ c ∈ name.reverse, decide (c ≠ (slash : α)) = true := by
    intro c hc
    rw [decide_eq_true_eq]
    rintro rfl
    exact h (List.mem_reverse.mp hc)
  rw [leaf, leaf, List.rtakeWhile, List.rtakeWhile, List.reverse_append,
    List.takeWhile_append_of_pos hname, List.reverse_append, List.reverse_reverse]

/-- Only `.` and `..` are no names, and both are shorter than three marks. -/
theorem component?_of_length {part : List α} (h : 2 < part.length) :
    component? part = some (.normal part) := by
  have hidle : ¬ (part = [] ∨ part = [dot]) := by
    rintro (rfl | rfl) <;> simp at h
  have hup : part ≠ [dot, dot] := by
    rintro rfl
    simp at h
  rw [component?, if_neg hidle, if_neg hup]

theorem IsFolder.fileName? {front name : List α} (hfront : IsFolder front) (hname : slash ∉ name)
    (hlength : 2 < name.length) : PathText.fileName? (front ++ name) = some name :=
  (name_and_parent (hfront.components_append hname (component?_of_length hlength))).1

/-- The stem of a file name is what stands before its last dot, unless nothing does. -/
theorem stem_append_dot {extension : List α} (h : dot ∉ extension) (name : List α) :
    (stemAndExtension (name ++ dot :: extension)).1 =
      if name = [] then dot :: extension else name := by
  have hsplit := Text.split_append_last h name
  have hjoin := Text.join_split dot name
  obtain ⟨last, rest, hname⟩ : ∃ last rest, (Text.split dot name).reverse = last :: rest := by
    apply List.exists_cons_of_ne_nil
    rw [Ne, List.reverse_eq_nil_iff]
    exact Text.split_ne_nil dot name
  have hstem : Text.join dot (last :: rest).reverse = name := by
    rw [← hname, List.reverse_reverse, hjoin]
  rw [stemAndExtension, hsplit, List.reverse_append, List.reverse_singleton, List.singleton_append,
    hname]
  simp only [hstem]
  split
  · rename_i hnil
    rw [hnil, List.nil_append]
  · rfl

end PathText

namespace Reference

variable {r : Reference} {front ending : List Char}

theorem IsSourceEnding.marks (h : IsSourceEnding ending) :
    '/' ∉ ending ∧ ending.length = 3 ∧ ∃ letters, ending = '.' :: letters ∧ '.' ∉ letters := by
  obtain ⟨p, y, rfl, rfl | rfl, rfl | rfl⟩ := h <;>
    exact ⟨by decide, rfl, _, rfl, by decide⟩

section Stem

variable (hraw : r.raw.toList = front ++ ending) (hending : IsSourceEnding ending)
include hraw hending

theorem leaf_raw : PathText.leaf r.raw.toList = PathText.leaf front ++ ending := by
  rw [hraw, PathText.leaf_append hending.marks.1]

theorem fileName?_raw : PathText.fileName? r.raw.toList = some (PathText.leaf front ++ ending) := by
  have hlength : 2 < (PathText.leaf r.raw.toList).length := by
    rw [leaf_raw hraw hending, List.length_append, hending.marks.2.1]
    omega
  have hname := (PathText.isFolder_folder r.raw.toList).fileName?
    (PathText.slash_notMem_leaf r.raw.toList) hlength
  rwa [PathText.folder_append_leaf, leaf_raw hraw hending] at hname

theorem fileStem?_raw : PathText.fileStem? r.raw.toList =
    some (if PathText.leaf front = [] then ending else PathText.leaf front) := by
  obtain ⟨_, _, letters, rfl, hletters⟩ := hending.marks
  rw [PathText.fileStem?, fileName?_raw hraw hending, Option.map_some]
  exact congrArg some (PathText.stem_append_dot hletters _)

/-- The name of a file is what stands between its last separator and its ending, or the ending if
nothing does. -/
theorem toList_logicalName :
    r.logicalName.toList = if PathText.leaf front = [] then ending else PathText.leaf front := by
  have hkind : r.kind = .physical := kind_eq_physical_iff.mpr ⟨front, ending, hraw, hending⟩
  rw [logicalName, hkind, fileStem?_raw hraw hending]
  simp

/-- The path that the text is read as has the same file name. -/
theorem fileName?_path : PathText.fileName? r.path.bytes =
    some (Utf8.encode (String.ofList (PathText.leaf r.raw.toList))) := by
  have hbytes : r.path.bytes = (PathText.folder r.raw.toList).flatMap Utf8.encodeChar ++
      (PathText.leaf r.raw.toList).flatMap Utf8.encodeChar := by
    rw [← List.flatMap_append, PathText.folder_append_leaf]
    rfl
  have hfolder : PathText.IsFolder ((PathText.folder r.raw.toList).flatMap Utf8.encodeChar) := by
    rcases PathText.isFolder_folder r.raw.toList with hnil | hslash
    · exact .inl (by rw [hnil]; rfl)
    · obtain ⟨cs, hcs⟩ := List.getLast?_eq_some_iff.mp hslash
      refine .inr ?_
      rw [hcs, List.flatMap_append, List.flatMap_singleton]
      exact List.getLast?_concat
  have hslash : (47 : UInt8) ∉ (PathText.leaf r.raw.toList).flatMap Utf8.encodeChar := by
    have hname : (47 : UInt8) ∉ Utf8.encode (String.ofList (PathText.leaf r.raw.toList)) := by
      apply slash_notMem_encode
      rw [String.toList_ofList]
      exact PathText.slash_notMem_leaf r.raw.toList
    rwa [Utf8.encode, String.toList_ofList] at hname
  have hlength : 2 < ((PathText.leaf r.raw.toList).flatMap Utf8.encodeChar).length := by
    have hthree : (ending.flatMap Utf8.encodeChar).length = 3 := by
      obtain ⟨p, y, rfl, rfl | rfl, rfl | rfl⟩ := hending <;> rfl
    rw [leaf_raw hraw hending, List.flatMap_append, List.length_append, hthree]
    omega
  rw [hbytes, hfolder.fileName? hslash hlength, Utf8.encode, String.toList_ofList]

end Stem

/-- A fingerprint is written in lowercase hexadecimal digits. -/
theorem mem_digits_of_mem_fingerprint {c : Char} (h : c ∈ r.fingerprint.toList) :
    c ∈ "0123456789abcdef".toList := by
  obtain ⟨d, hd, rfl⟩ := Sha256.digit_of_mem_hex h
  have hdigit : ∀ d < 16, Nat.digitChar d ∈ "0123456789abcdef".toList := by decide
  exact hdigit d hd

/-- **What a text says of a source file.** A text is the path of a source file exactly if it ends in a
dot, `p` and `y`, the letters in any case. Then the path has a file name, and so a stem, which is the name
the library is loaded under: it is not empty and holds no separator, and together with the ending it is
what stands behind the last separator; if nothing but the ending does, it is the ending. In whatever cache
directory, the libdoc of the file is named by the stem and 16 hexadecimal digits, and its parent is the
cache directory. -/
theorem stem_of_source_file (raw : String) :
    let r : Reference := ⟨raw⟩
    (r.kind = .physical ↔
      ∃ front ending, raw.toList = front ++ ending ∧ IsSourceEnding ending) ∧
    (r.kind = .physical →
      PathText.fileName? r.path.bytes =
        some (Utf8.encode (String.ofList (PathText.leaf raw.toList))) ∧
      PathText.fileStem? raw.toList = some r.logicalName.toList ∧
      r.logicalName ≠ "" ∧ '/' ∉ r.logicalName.toList ∧
      (∃ front ending, raw.toList = front ++ ending ∧ IsSourceEnding ending ∧
        (PathText.leaf raw.toList = r.logicalName.toList ++ ending ∨
          PathText.leaf raw.toList = ending ∧ r.logicalName.toList = ending)) ∧
      ∀ cacheDir : Path, ∃ digits : String,
        digits.toList.length = 16 ∧ (∀ c ∈ digits.toList, c ∈ "0123456789abcdef".toList) ∧
        let libdoc := artifactPath cacheDir r.cacheKey
        PathText.fileName? libdoc.bytes =
          some (Utf8.encode (r.logicalName ++ "-" ++ digits ++ ".xml")) ∧
        ∃ parent, libdoc.parent? = some parent ∧ parent.components = cacheDir.components) := by
  intro r
  refine ⟨kind_eq_physical_iff, fun hkind => ?_⟩
  obtain ⟨front, ending, hraw, hending⟩ := kind_eq_physical_iff.mp hkind
  have hname := toList_logicalName hraw hending
  have hne : r.logicalName.toList ≠ [] := by
    rw [hname]
    split
    · exact List.ne_nil_of_length_pos (by rw [hending.marks.2.1]; decide)
    · assumption
  refine ⟨fileName?_path hraw hending, ?_, ?_, slash_notMem_logicalName hkind, ?_, fun cacheDir => ?_⟩
  · rw [hname]
    exact fileStem?_raw hraw hending
  · rintro hempty
    exact hne (by rw [hempty]; rfl)
  · refine ⟨front, ending, hraw, hending, ?_⟩
    have hleaf := leaf_raw hraw hending
    by_cases hnil : PathText.leaf front = []
    · rw [hnil, List.nil_append] at hleaf
      rw [if_pos hnil] at hname
      exact .inr ⟨hleaf, hname⟩
    · rw [if_neg hnil] at hname
      rw [hname]
      exact .inl hleaf
  · refine ⟨r.fingerprint, length_fingerprint r, fun c hc => mem_digits_of_mem_fingerprint hc, ?_⟩
    have hcomponents := components_artifactPath_of_notMem (slash_notMem_cacheKey hkind) cacheDir
    obtain ⟨hfile, parent, hparent, hdir⟩ := PathText.name_and_parent hcomponents
    rw [cacheKey_of_physical hkind] at hfile hparent ⊢
    refine ⟨hfile, ⟨parent⟩, ?_, hdir⟩
    rw [Path.parent?, hparent]
    rfl

example : (Reference.mk ".py").logicalName = ".py" ∧ (Reference.mk "a/...PY").logicalName = ".." := by
  decide +kernel

end Reference

end KeywordDocs
