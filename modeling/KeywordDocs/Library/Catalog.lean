import KeywordDocs.Library.Record

/-!
# Catalogs

A catalog holds at most one record per library key, in the order in which the keys first came. A
record for a key that is there already takes the place of the former one.
-/

namespace KeywordDocs

/-- Records by library key, in the order of the keys' first appearance. -/
structure Catalog where
  records : List LibraryRecord
  deriving DecidableEq, Repr

namespace Catalog

/-- The catalog without records. -/
def empty : Catalog := ⟨[]⟩

/-- Replaces the record with the same key, or adds the record at the end. -/
def put (record : LibraryRecord) : List LibraryRecord → List LibraryRecord
  | [] => [record]
  | r :: rest => if r.libraryKey = record.libraryKey then record :: rest else r :: put record rest

/-- Puts a record into the catalog. -/
def insert (c : Catalog) (record : LibraryRecord) : Catalog := ⟨put record c.records⟩

/-- The record of a key. -/
def get? (c : Catalog) (key : String) : Option LibraryRecord :=
  c.records.find? (·.libraryKey = key)

/-- The number of records. -/
def size (c : Catalog) : Nat := c.records.length

/-- The keys in order. -/
def keys (c : Catalog) : List String := c.records.map (·.libraryKey)

/-- The number of records that are no success. -/
def failures (c : Catalog) : Nat := c.records.countP (!·.isSuccess)

@[simp]
theorem get?_empty (key : String) : empty.get? key = none := rfl

/-- Putting a record into a list touches no key but its own. -/
theorem find?_put (record : LibraryRecord) (records : List LibraryRecord) (key : String) :
    (put record records).find? (·.libraryKey = key) =
      if key = record.libraryKey then some record else records.find? (·.libraryKey = key) := by
  induction records with
  | nil =>
    by_cases h : key = record.libraryKey
    · simp [put, h]
    · have hk : ¬ record.libraryKey = key := fun e => h e.symm
      simp [put, h, hk]
  | cons r rest ih =>
    by_cases hr : r.libraryKey = record.libraryKey
    · rw [put, if_pos hr]
      by_cases h : key = record.libraryKey
      · simp [h]
      · have hk : ¬ record.libraryKey = key := fun e => h e.symm
        have hrk : ¬ r.libraryKey = key := fun e => h (e.symm.trans hr)
        simp [h, hk, hrk]
    · rw [put, if_neg hr, List.find?_cons, List.find?_cons, ih]
      by_cases hk : r.libraryKey = key
      · have h : ¬ key = record.libraryKey := fun e => hr (hk.trans e)
        simp [hk, h]
      · simp [hk]

/-- The record put in last under a key is the one that is found. -/
theorem get?_insert (c : Catalog) (record : LibraryRecord) (key : String) :
    (c.insert record).get? key = if key = record.libraryKey then some record else c.get? key :=
  find?_put record c.records key

/-- A new key comes last, a known one keeps its place. -/
theorem keys_insert (c : Catalog) (record : LibraryRecord) :
    (c.insert record).keys =
      if record.libraryKey ∈ c.keys then c.keys else c.keys ++ [record.libraryKey] := by
  obtain ⟨records⟩ := c
  simp only [insert, keys]
  induction records with
  | nil => simp [put]
  | cons r rest ih =>
    by_cases hr : r.libraryKey = record.libraryKey
    · simp [put, hr]
    · have hk : ¬ record.libraryKey = r.libraryKey := fun e => hr e.symm
      simp only [put, hr, if_false, List.map_cons, ih, List.mem_cons, hk, false_or]
      by_cases hm : record.libraryKey ∈ rest.map (·.libraryKey)
      · simp only [hm, if_true]
      · simp only [hm, if_false, List.cons_append]

/-- A record as the member of an object. -/
def member? (r : LibraryRecord) : Option (String × Json) := r.toJson?.map (r.libraryKey, ·)

/-- The catalog as JSON: an object with a member per record. -/
def toJson? (c : Catalog) : Option Json := (c.records.mapM member?).map .object

end Catalog

end KeywordDocs
