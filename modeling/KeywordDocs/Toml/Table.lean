import KeywordDocs.Toml.Value

/-!
# Building tables

A document is a sequence of statements: headers that choose a table, and assignments to keys of
the chosen table. Nothing may be defined twice, and a table that is complete may not be added to
from elsewhere.
-/

namespace KeywordDocs.Toml

/-- Puts a value under a key, in place of the one that was there. -/
def setMember (key : String) (v : Value) : Members → Members
  | [] => [(key, v)]
  | (k, w) :: rest => if k = key then (k, v) :: rest else (k, w) :: setMember key v rest

/-- Setting a member touches no other key. -/
theorem lookup_setMember (key : String) (v : Value) (members : Members) (k : String) :
    (setMember key v members).lookup k = if k = key then some v else members.lookup k := by
  induction members with
  | nil =>
    by_cases h : k = key
    · simp [setMember, h]
    · have hk : (k == key) = false := by simpa using h
      simp [setMember, List.lookup_cons, h, hk]
  | cons member rest ih =>
    obtain ⟨m, w⟩ := member
    by_cases hm : m = key
    · by_cases h : k = key
      · simp [setMember, hm, h]
      · have hk : (k == key) = false := by simpa using h
        simp [setMember, List.lookup_cons, hm, h, hk]
    · rw [setMember, if_neg hm, List.lookup_cons, List.lookup_cons, ih]
      by_cases hk : k = m
      · simp [hk, hm]
      · have hkm : (k == m) = false := by simpa using hk
        simp [hkm]

/-- Changes the table at the end of a path of keys. Missing tables on the way are made. A dotted
key (`dotted`) may not lead through a table with a header, and nothing leads through an inline
table. The change is told the kind of the table. -/
def changeAt (dotted : Bool) (change : TableKind → Members → Option Members) :
    List String → TableKind → Members → Option Members
  | [], kind, members => change kind members
  | key :: path, _, members =>
    match members.lookup key with
    | none => do
      let kind : TableKind := if dotted then .dotted else .implicit
      let inner ← changeAt dotted change path kind []
      some (setMember key (.table kind inner) members)
    | some (.table kind inner) =>
      if kind = .inline ∨ (dotted ∧ kind = .explicit) then none
      else do
        let inner ← changeAt dotted change path kind inner
        some (setMember key (.table kind inner) members)
    | some (.array true items) =>
      match items.getLast? with
      | some (.table kind inner) => do
        let inner ← changeAt dotted change path kind inner
        some (setMember key (.array true (items.dropLast ++ [.table kind inner])) members)
      | _ => none
    | some _ => none

/-- Gives a new key a value. Plain keys go into a table as such, dotted keys into the tables that
dotted keys make. -/
def assign (path : List String) (key : String) (v : Value) (kind : TableKind) (members : Members) :
    Option Members :=
  changeAt true
    (fun kind members =>
      if (kind = .dotted ∧ path = []) ∨ (kind ≠ .dotted ∧ path ≠ []) then none
      else if (members.lookup key).isSome then none
      else some (setMember key v members))
    path kind members

/-- Opens the table of a header. A table that stood on the way to another becomes complete. -/
def openTable (key : String) (_ : TableKind) (members : Members) : Option Members :=
  match members.lookup key with
  | none => some (setMember key (.table .explicit []) members)
  | some (.table .implicit inner) => some (setMember key (.table .explicit inner) members)
  | some _ => none

/-- Opens the next table of an array of tables. -/
def openItem (key : String) (_ : TableKind) (members : Members) : Option Members :=
  match members.lookup key with
  | none => some (setMember key (.array true [.table .explicit []]) members)
  | some (.array true items) =>
    some (setMember key (.array true (items ++ [.table .explicit []])) members)
  | some _ => none

/-- A statement of a document; keys are given as the path to the last one and the last one. -/
inductive Statement where
  | header (path : List String) (key : String)
  | itemHeader (path : List String) (key : String)
  | assignment (path : List String) (key : String) (value : Value)
  deriving Repr

/-- A document being built: its tables, and the path of the chosen one. -/
structure Draft where
  root : Members
  chosen : List String
  deriving Repr

/-- Carries out a statement. -/
def Draft.apply (d : Draft) : Statement → Option Draft
  | .header path key => do
    let root ← changeAt false (openTable key) path .explicit d.root
    some ⟨root, path ++ [key]⟩
  | .itemHeader path key => do
    let root ← changeAt false (openItem key) path .explicit d.root
    some ⟨root, path ++ [key]⟩
  | .assignment path key v => do
    let root ← changeAt false (assign path key v) d.chosen .explicit d.root
    some { d with root := root }

/-- The table that statements define. -/
def build (statements : List Statement) : Option Members :=
  (statements.foldlM Draft.apply ⟨[], []⟩).map (·.root)

/-- The inline table that assignments define. -/
def buildInline (assignments : List (List String × String × Value)) : Option Value :=
  (assignments.foldlM (fun members (path, key, v) => assign path key v .explicit members) []).map
    (.table .inline ·)

end KeywordDocs.Toml
