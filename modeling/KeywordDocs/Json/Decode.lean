import KeywordDocs.Json.Basic
import KeywordDocs.Json.Term
import KeywordDocs.Text.Split

/-!
# Reading terms

What a term means to a reader that expects a value of some kind. Reading a whole value bounds the
nesting and needs every number and string to have a meaning; members are ordered by name and of
members with one name the last one counts. Reading a record looks at the members it knows only: it
refuses a member given twice and does not look into members it does not know. A record can also be
written as the array of its members.
-/

namespace KeywordDocs.Json

/-- The deepest nesting of arrays and objects that a value may have. -/
def maxNesting : Nat := 127

/-- Puts a member at its place by name, in place of one with the same name. -/
def insertMember (name : String) (value : Json) : List (String × Json) → List (String × Json)
  | [] => [(name, value)]
  | (n, v) :: rest =>
    if name = n then (name, value) :: rest
    else if name < n then (name, value) :: (n, v) :: rest
    else (n, v) :: insertMember name value rest

mutual

/-- The value a term is, with at most `depth` levels of nesting. -/
def ofTerm? (depth : Nat) : Term → Option Json
  | .null => some .null
  | .bool b => some (.bool b)
  | .number n => n.toNumber?.map .number
  | .string s => s.map .string
  | .array items => if depth = 0 then none else (ofItems? (depth - 1) items).map .array
  | .object members => if depth = 0 then none else (ofMembers? (depth - 1) [] members).map .object

/-- The values of the items of an array. -/
def ofItems? (depth : Nat) : List Term → Option (List Json)
  | [] => some []
  | item :: items => do
    let v ← ofTerm? depth item
    let vs ← ofItems? depth items
    some (v :: vs)

/-- The members of an object, added to those already read. -/
def ofMembers? (depth : Nat) (done : List (String × Json)) :
    List (Option String × Term) → Option (List (String × Json))
  | [] => some done
  | member :: members => do
    let (name, value) ← ofMember? depth member
    ofMembers? depth (insertMember name value done) members

/-- A member of an object. -/
def ofMember? (depth : Nat) : Option String × Term → Option (String × Json)
  | (name, term) => do
    let name ← name
    let value ← ofTerm? depth term
    some (name, value)

end

/-- The value that a text is. -/
def ofString? (text : String) : Option Json := (Term.ofString? text).bind (ofTerm? maxNesting)

namespace Term

/-- The Boolean a term is. -/
def bool? : Term → Option Bool
  | .bool b => some b
  | _ => none

/-- The text a term is. -/
def string? : Term → Option String
  | .string s => s
  | _ => none

/-- The integer a term is; doubles are not integers, whatever their value. -/
def integer? : Term → Option Int
  | .number n =>
    match n.toNumber? with
    | some (.integer i) => some i
    | _ => none
  | _ => none

/-- The integer a term is, if it lies between bounds. -/
def integerIn? (low high : Int) (t : Term) : Option Int :=
  t.integer?.filter fun i => low ≤ i && i ≤ high

/-- The texts a term lists. -/
def strings? : Term → Option (List String)
  | .array items => items.mapM string?
  | _ => none

/-- Reads `null` as nothing. -/
def optional {α : Type} (read : Term → Option α) : Term → Option (Option α)
  | .null => some none
  | t => (read t).map some

/-- The terms of the named members of a record, in the order of `names`: from an object by name,
from an array by position. -/
def members? (names : List String) : Term → Option (List (Option Term))
  | .array items =>
    if items.length ≤ names.length then
      some (items.map some ++ List.replicate (names.length - items.length) none)
    else none
  | .object members => do
    let members ← members.mapM fun (n, t) => n.map fun n => (n, t)
    names.mapM fun name =>
      match members.filter (·.1 = name) with
      | [] => some none
      | [(_, t)] => some (some t)
      | _ => none
  | _ => none

end Term

/-- Reads the last line of a text that is not blank, whatever stands before it. -/
def readLastLine? {α : Type} (read : Term → Option α) (text : String) : Option α :=
  (Text.lastLine? text).bind fun line => (Term.ofString? line).bind read

end KeywordDocs.Json
