import KeywordDocs.Library.Reference
import KeywordDocs.Proofs.Lines

/-!
# Lists on the command line

Libraries and search paths are given in lists: texts between commas, with blanks around them or without,
and with blank segments that do not count. `Listing` is that format, said without splitting and trimming.
Each text is a list in that format, and what is read from it is what it lists (`entries_read_lists`).
-/

namespace KeywordDocs

namespace Text

/-! ### The format -/

/-- A text that can be listed: it is not empty, holds no comma, and has no blanks at its ends. -/
structure IsEntry (x : String) : Prop where
  ne_empty : x ≠ ""
  noComma : ',' ∉ x.toList
  front : ∀ c, x.toList.head? = some c → isBlank c = false
  back : ∀ c, x.toList.getLast? = some c → isBlank c = false

/-- What the segments of a list are: blanks, or a text that is listed with blanks around it. -/
inductive Listing : List (List Char) → List String → Prop
  | done : Listing [] []
  | skip {blank : List Char} {segments : List (List Char)} {xs : List String}
      (blanks : ∀ c ∈ blank, isBlank c = true) (rest : Listing segments xs) :
      Listing (blank :: segments) xs
  | entry {front back : List Char} {x : String} {segments : List (List Char)} {xs : List String}
      (isEntry : IsEntry x) (before : ∀ c ∈ front, isBlank c = true)
      (behind : ∀ c ∈ back, isBlank c = true) (rest : Listing segments xs) :
      Listing ((front ++ x.toList ++ back) :: segments) (x :: xs)

/-! ### Segments -/

/-- The entries in the segments of a list. -/
def segmentEntries (segments : List (List Char)) : List String :=
  ((segments.map trimChars).filter (· ≠ [])).map String.ofList

theorem entries_eq (s : String) : entries s = segmentEntries (split ',' s.toList) := rfl

theorem segmentEntries_append (segments others : List (List Char)) :
    segmentEntries (segments ++ others) = segmentEntries segments ++ segmentEntries others := by
  simp [segmentEntries]

/-- A blank segment has no entry. -/
theorem segmentEntries_of_blank {segment : List Char} (h : trimChars segment = [])
    (segments : List (List Char)) : segmentEntries (segment :: segments) = segmentEntries segments := by
  simp [segmentEntries, h]

/-- A segment that is not blank has one entry. -/
theorem segmentEntries_of_ne_nil {segment : List Char} (h : trimChars segment ≠ [])
    (segments : List (List Char)) :
    segmentEntries (segment :: segments) =
      String.ofList (trimChars segment) :: segmentEntries segments := by
  simp [segmentEntries, h]

theorem comma_notMem_blank {blank : List Char} (h : ∀ c ∈ blank, isBlank c = true) : ',' ∉ blank :=
  fun hmem => absurd (h ',' hmem) (by decide)

theorem IsEntry.trimChars_append {x : String} (h : IsEntry x) {front back : List Char}
    (hfront : ∀ c ∈ front, isBlank c = true) (hback : ∀ c ∈ back, isBlank c = true) :
    trimChars (front ++ x.toList ++ back) = x.toList := by
  refine Text.trimChars_append hfront hback (fun hnil => h.ne_empty ?_) h.front h.back
  rwa [String.toList_eq_nil_iff] at hnil

/-- What is left of a segment can be listed. -/
theorem isEntry_trimChars {segment : List Char} (hcomma : ',' ∉ segment)
    (hne : trimChars segment ≠ []) : IsEntry (String.ofList (trimChars segment)) := by
  obtain ⟨front, back, _, _, hsegment⟩ := exists_trimChars segment
  refine ⟨fun hempty => hne ?_, fun hmem => hcomma ?_, fun c hc => ?_, fun c hc => ?_⟩
  · rwa [← String.toList_eq_nil_iff, String.toList_ofList] at hempty
  · rw [String.toList_ofList] at hmem
    rw [hsegment]
    exact List.mem_append_left _ (List.mem_append_right _ hmem)
  · rw [String.toList_ofList] at hc
    exact isBlank_head?_trimChars hc
  · rw [String.toList_ofList] at hc
    exact isBlank_getLast?_trimChars hc

namespace Listing

variable {segments : List (List Char)} {xs : List String}

theorem segmentEntries_eq (h : Listing segments xs) : segmentEntries segments = xs := by
  induction h with
  | done => rfl
  | skip blanks rest ih => rw [segmentEntries_of_blank (trimChars_eq_nil_iff.mpr blanks), ih]
  | @entry front back x segments xs isEntry before behind rest ih =>
    have htrim := isEntry.trimChars_append before behind
    have hne : trimChars (front ++ x.toList ++ back) ≠ [] := by
      rw [htrim]
      exact fun hnil => isEntry.ne_empty (String.toList_eq_nil_iff.mp hnil)
    rw [segmentEntries_of_ne_nil hne, htrim, String.ofList_toList, ih]

theorem noComma (h : Listing segments xs) : ∀ segment ∈ segments, ',' ∉ segment := by
  induction h with
  | done => exact fun _ hmem => nomatch hmem
  | skip blanks rest ih => exact List.forall_mem_cons.mpr ⟨comma_notMem_blank blanks, ih⟩
  | entry isEntry before behind rest ih =>
    refine List.forall_mem_cons.mpr ⟨?_, ih⟩
    simp [comma_notMem_blank before, isEntry.noComma, comma_notMem_blank behind]

theorem isEntry (h : Listing segments xs) : ∀ x ∈ xs, IsEntry x := by
  induction h with
  | done => exact fun _ hmem => nomatch hmem
  | skip blanks rest ih => exact ih
  | entry isEntry before behind rest ih => exact List.forall_mem_cons.mpr ⟨isEntry, ih⟩

/-- What is read from a list is what it lists. -/
theorem entries_join (h : Listing segments xs) : entries (String.ofList (join ',' segments)) = xs := by
  by_cases hne : segments = []
  · -- The text without segments is also that of one empty segment, which has no entry either.
    subst hne
    cases h
    rfl
  · rw [entries_eq, String.toList_ofList, split_join hne h.noComma, h.segmentEntries_eq]

/-- Segments without commas are a list of their entries. -/
theorem of_noComma (h : ∀ segment ∈ segments, ',' ∉ segment) :
    Listing segments (segmentEntries segments) := by
  induction segments with
  | nil => exact .done
  | cons segment segments ih =>
    obtain ⟨hsegment, hrest⟩ := List.forall_mem_cons.mp h
    by_cases hblank : trimChars segment = []
    · rw [segmentEntries_of_blank hblank]
      exact .skip (trimChars_eq_nil_iff.mp hblank) (ih hrest)
    · obtain ⟨front, back, hfront, hback, hpadded⟩ := exists_trimChars segment
      have hentry := Listing.entry (isEntry_trimChars hsegment hblank) hfront hback (ih hrest)
      rw [String.toList_ofList, ← hpadded] at hentry
      rwa [segmentEntries_of_ne_nil hblank]

/-- Texts that can be listed are listed by themselves, without any blanks. -/
theorem of_isEntry (h : ∀ x ∈ xs, IsEntry x) : Listing (xs.map String.toList) xs := by
  induction xs with
  | nil => exact .done
  | cons x xs ih =>
    obtain ⟨hx, hrest⟩ := List.forall_mem_cons.mp h
    have hentry := @Listing.entry [] [] x _ xs hx (by simp) (by simp) (ih hrest)
    rwa [List.nil_append, List.append_nil] at hentry

end Listing

/-! ### Reading lists -/

/-- Every text is a list, namely of the entries that are read from it. -/
theorem exists_listing (s : String) :
    ∃ segments, Listing segments (entries s) ∧ s = String.ofList (join ',' segments) := by
  refine ⟨split ',' s.toList, Listing.of_noComma fun _ => notMem_of_mem_split, ?_⟩
  rw [join_split, String.ofList_toList]

theorem entries_append (s t : String) : entries (s ++ "," ++ t) = entries s ++ entries t := by
  have htext : (s ++ "," ++ t).toList = s.toList ++ ',' :: t.toList := by simp
  rw [entries_eq, htext, split_append_sep, segmentEntries_append]
  rfl

theorem toList_intercalate_comma (xs : List String) :
    (",".intercalate xs).toList = join ',' (xs.map String.toList) := by
  induction xs with
  | nil => rfl
  | cons x xs ih =>
    cases xs with
    | nil => simp [join]
    | cons y xs =>
      rw [String.intercalate_cons_cons, String.toList_append, String.toList_append, ih]
      simp [join]

/-- Entries with commas between them are read as they are. -/
theorem entries_intercalate {xs : List String} (h : ∀ x ∈ xs, IsEntry x) :
    entries (",".intercalate xs) = xs := by
  rw [← String.ofList_toList (s := ",".intercalate xs), toList_intercalate_comma]
  exact (Listing.of_isEntry h).entries_join

end Text

open Text in
/-- **Exactly the comma-separated lists are read.** What is read from a text are texts that can be listed.
A comma between two texts is one between their entries. Texts that are listed with any blanks around them
and any blank segments before, between and behind them are read back, in their order; and each text is
such a list of what is read from it. So entries that are written with commas between them are read again,
and the references of a list are its entries. -/
theorem entries_read_lists (s t : String) :
    (∀ x ∈ entries s, IsEntry x) ∧
    entries (s ++ "," ++ t) = entries s ++ entries t ∧
    (∀ segments xs, Listing segments xs → entries (String.ofList (join ',' segments)) = xs) ∧
    (∃ segments, Listing segments (entries s) ∧ s = String.ofList (join ',' segments)) ∧
    (∀ xs, (∀ x ∈ xs, IsEntry x) → entries (",".intercalate xs) = xs) ∧
    entries (",".intercalate (entries s)) = entries s ∧
    (Reference.parseList s).map Reference.raw = entries s := by
  obtain ⟨segments, listing, _⟩ := exists_listing s
  have hentries := listing.isEntry
  refine ⟨hentries, entries_append s t, fun _ _ h => h.entries_join, exists_listing s,
    fun xs => entries_intercalate, entries_intercalate hentries, ?_⟩
  rw [Reference.parseList, List.map_map]
  exact List.map_id _

example : Text.entries "/opt/libs,, /srv/my kw\t" = ["/opt/libs", "/srv/my kw"] := by decide

end KeywordDocs
