import Mathlib.Data.Finset.Card
import Mathlib.Data.List.Nodup
import KeywordDocs.Library.Catalog

/-!
# Catalogs filled record by record

What a catalog holds after any sequence of insertions, told by the records alone:

* `keys_insertAll_empty`: the keys stand in the order in which they first came, each once;
* `size_insertAll_empty`: there are as many records as there are different keys;
* `get?_insertAll`: under a key stands the last record that came with it.

A catalog can be filled in parts: filling one catalog and then inserting its records into another
is the same as inserting all records into the other one (`insertAll_records`).
-/

namespace KeywordDocs.Catalog

/-- Puts records into a catalog one after another. -/
def insertAll (c : Catalog) (records : List LibraryRecord) : Catalog := records.foldl insert c

@[simp]
theorem insertAll_nil (c : Catalog) : c.insertAll [] = c := rfl

@[simp]
theorem insertAll_cons (c : Catalog) (r : LibraryRecord) (rs : List LibraryRecord) :
    c.insertAll (r :: rs) = (c.insert r).insertAll rs := rfl

theorem insertAll_append (c : Catalog) (rs ss : List LibraryRecord) :
    c.insertAll (rs ++ ss) = (c.insertAll rs).insertAll ss :=
  List.foldl_append

/-! ### Keys -/

/-- New keys come behind the old ones, in the order of their first appearance. -/
theorem keys_insertAll (c : Catalog) (rs : List LibraryRecord) :
    (c.insertAll rs).keys = c.keys ++ ((rs.map (·.libraryKey)).removeAll c.keys).eraseDups := by
  induction rs generalizing c with
  | nil => simp [List.removeAll]
  | cons r rs ih =>
    rw [insertAll_cons, ih, keys_insert]
    by_cases h : r.libraryKey ∈ c.keys
    · simp [List.removeAll, h]
    · have hfilter : (rs.map (·.libraryKey)).removeAll (c.keys ++ [r.libraryKey]) =
          ((rs.map (·.libraryKey)).removeAll c.keys).filter (fun k => !k == r.libraryKey) := by
        simp only [List.removeAll, List.filter_filter]
        refine List.filter_congr fun k _ => ?_
        by_cases hk : k = r.libraryKey <;> simp [hk]
      rw [if_neg h, hfilter, List.map_cons, List.append_assoc]
      simp [List.removeAll, h, List.eraseDups_cons]

/-- The keys of a catalog that was filled from nothing. -/
theorem keys_insertAll_empty (rs : List LibraryRecord) :
    (empty.insertAll rs).keys = (rs.map (·.libraryKey)).eraseDups := by
  rw [keys_insertAll]
  simp [keys, empty, List.removeAll]

/-- Inserting keeps the keys different from each other. -/
theorem nodup_keys_insert {c : Catalog} (h : c.keys.Nodup) (r : LibraryRecord) :
    (c.insert r).keys.Nodup := by
  rw [keys_insert]
  split
  · exact h
  · rename_i hr
    exact List.nodup_append.mpr
      ⟨h, List.nodup_singleton _, fun a ha b hb hab =>
        hr (List.mem_singleton.mp hb ▸ hab ▸ ha)⟩

/-- However a catalog is filled, no two of its records share a key. -/
theorem nodup_keys_insertAll {c : Catalog} (h : c.keys.Nodup) (rs : List LibraryRecord) :
    (c.insertAll rs).keys.Nodup := by
  induction rs generalizing c with
  | nil => exact h
  | cons r rs ih => exact ih (nodup_keys_insert h r)

theorem nodup_keys_empty : empty.keys.Nodup := List.nodup_nil

/-- A catalog that was filled from nothing has one record per key that came. -/
theorem size_insertAll_empty (rs : List LibraryRecord) :
    (empty.insertAll rs).size = (rs.map (·.libraryKey)).toFinset.card := by
  have hkeys : (empty.insertAll rs).keys.toFinset = (rs.map (·.libraryKey)).toFinset := by
    rw [keys_insertAll_empty]
    ext k
    simp only [List.mem_toFinset, List.mem_eraseDups]
  rw [← hkeys, List.toFinset_card_of_nodup (nodup_keys_insertAll nodup_keys_empty rs)]
  simp [size, keys]

/-! ### Records -/

/-- The last record that came with a key is the one found under it; a key that did not come is
looked up in the catalog as it was before. -/
theorem get?_insertAll (c : Catalog) (rs : List LibraryRecord) (key : String) :
    (c.insertAll rs).get? key = (rs.reverse.find? (·.libraryKey = key)).or (c.get? key) := by
  induction rs generalizing c with
  | nil => simp
  | cons r rs ih =>
    rw [insertAll_cons, ih, get?_insert, List.reverse_cons, List.find?_append]
    cases hlast : rs.reverse.find? (·.libraryKey = key) with
    | some last => simp
    | none =>
      by_cases h : key = r.libraryKey
      · simp [h]
      · have h' : ¬ r.libraryKey = key := fun e => h e.symm
        simp [h, h']

/-- Under a key that came stands one of the records that came with it, whatever was there before. -/
theorem exists_get?_insertAll {rs : List LibraryRecord} {key : String}
    (h : key ∈ rs.map (·.libraryKey)) :
    ∃ r ∈ rs, r.libraryKey = key ∧ ∀ c : Catalog, (c.insertAll rs).get? key = some r := by
  obtain ⟨r, hr, hkey⟩ := List.mem_map.mp h
  cases hfind : rs.reverse.find? (·.libraryKey = key) with
  | none =>
    have hnone := List.find?_eq_none.mp hfind r (List.mem_reverse.mpr hr)
    exact absurd (decide_eq_true hkey) hnone
  | some last =>
    have hlast := List.find?_some hfind
    refine ⟨last, List.mem_reverse.mp (List.mem_of_find?_eq_some hfind), ?_, fun c => ?_⟩
    · exact of_decide_eq_true hlast
    · rw [get?_insertAll, hfind, Option.some_or]

/-- What is found in a catalog that was filled is one of the records, with its key. -/
theorem mem_of_get?_insertAll_empty {rs : List LibraryRecord} {key : String} {r : LibraryRecord}
    (h : (empty.insertAll rs).get? key = some r) : r ∈ rs ∧ r.libraryKey = key := by
  rw [get?_insertAll, get?_empty, Option.or_none] at h
  have hkey := List.find?_some h
  exact ⟨List.mem_reverse.mp (List.mem_of_find?_eq_some h), of_decide_eq_true hkey⟩

/-- A record that is inserted before others of other keys is found under its key. -/
theorem get?_insertAll_of_notMem (c : Catalog) (r : LibraryRecord) (rs : List LibraryRecord)
    (h : r.libraryKey ∉ rs.map (·.libraryKey)) :
    (c.insertAll (r :: rs)).get? r.libraryKey = some r := by
  have hnone : rs.reverse.find? (·.libraryKey = r.libraryKey) = none := by
    rw [List.find?_eq_none]
    intro s hs hkey
    exact h (List.mem_map.mpr ⟨s, List.mem_reverse.mp hs, of_decide_eq_true hkey⟩)
  rw [insertAll_cons, get?_insertAll, hnone, get?_insert]
  simp

/-! ### Filling in parts -/

/-- Of two records with one key only the later one stays. -/
theorem put_put_of_eq {r s : LibraryRecord} (h : s.libraryKey = r.libraryKey)
    (records : List LibraryRecord) : put r (put s records) = put r records := by
  induction records with
  | nil => simp [put, h]
  | cons t rest ih =>
    by_cases ht : t.libraryKey = s.libraryKey
    · simp [put, ht, h]
    · have htr : ¬ t.libraryKey = r.libraryKey := fun e => ht (e.trans h.symm)
      simp [put, ht, htr, ih]

/-- A record whose key is there already can be put in before or after one with another key. -/
theorem put_comm {r s : LibraryRecord} (hne : r.libraryKey ≠ s.libraryKey)
    {records : List LibraryRecord} (hmem : r.libraryKey ∈ records.map (·.libraryKey)) :
    put r (put s records) = put s (put r records) := by
  induction records with
  | nil => simp at hmem
  | cons t rest ih =>
    by_cases htr : t.libraryKey = r.libraryKey
    · simp [put, htr, hne]
    · have hrest : r.libraryKey ∈ rest.map (·.libraryKey) := by
        rcases List.mem_cons.mp hmem with heq | hrest
        · exact absurd heq.symm htr
        · exact hrest
      by_cases hts : t.libraryKey = s.libraryKey
      · simp [put, hts, Ne.symm hne]
      · simp [put, htr, hts, ih hrest]

/-- A record whose key is there already can be inserted before or after records of other keys. -/
theorem insert_insertAll {c : Catalog} {r : LibraryRecord} (hmem : r.libraryKey ∈ c.keys)
    {rs : List LibraryRecord} (hnot : r.libraryKey ∉ rs.map (·.libraryKey)) :
    (c.insertAll rs).insert r = (c.insert r).insertAll rs := by
  induction rs generalizing c with
  | nil => rfl
  | cons s rs ih =>
    rw [List.map_cons, List.mem_cons, not_or] at hnot
    have hmem' : r.libraryKey ∈ (c.insert s).keys := by
      rw [keys_insert]
      split
      · exact hmem
      · exact List.mem_append_left _ hmem
    have hswap : (c.insert s).insert r = (c.insert r).insert s :=
      congrArg Catalog.mk (put_comm hnot.1 hmem)
    rw [insertAll_cons, insertAll_cons, ih hmem' hnot.2, hswap]

/-- Inserting the records of a list in which one was put is inserting them all and then that one. -/
theorem insertAll_put (c : Catalog) (r : LibraryRecord) {rs : List LibraryRecord}
    (hnodup : (rs.map (·.libraryKey)).Nodup) :
    c.insertAll (put r rs) = (c.insertAll rs).insert r := by
  induction rs generalizing c with
  | nil => rfl
  | cons s rs ih =>
    rw [List.map_cons, List.nodup_cons] at hnodup
    by_cases h : s.libraryKey = r.libraryKey
    · have hmem : r.libraryKey ∈ (c.insert s).keys := by
        rw [keys_insert]
        split
        · rename_i hs
          exact h ▸ hs
        · rw [h]
          exact List.mem_append_right _ List.mem_cons_self
      have hsame : (c.insert s).insert r = c.insert r :=
        congrArg Catalog.mk (put_put_of_eq h c.records)
      rw [put, if_pos h, insertAll_cons, insertAll_cons, insert_insertAll hmem (h ▸ hnodup.1), hsame]
    · rw [put, if_neg h, insertAll_cons, insertAll_cons, ih _ hnodup.2]

/-- Records that are first collected in a catalog of their own and then inserted, in its order,
leave the same catalog as when they are inserted as they come. -/
theorem insertAll_records (c : Catalog) (rs : List LibraryRecord) :
    c.insertAll (empty.insertAll rs).records = c.insertAll rs := by
  induction rs using List.reverseRecOn with
  | nil => rfl
  | append_singleton rs r ih =>
    have hnodup : (empty.insertAll rs).keys.Nodup := nodup_keys_insertAll nodup_keys_empty rs
    calc c.insertAll (empty.insertAll (rs ++ [r])).records
        = c.insertAll (put r (empty.insertAll rs).records) := by rw [insertAll_append]; rfl
      _ = (c.insertAll (empty.insertAll rs).records).insert r := insertAll_put c r hnodup
      _ = c.insertAll (rs ++ [r]) := by rw [ih, insertAll_append]; rfl

end KeywordDocs.Catalog
