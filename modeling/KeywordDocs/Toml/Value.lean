/-!
# TOML values

A table remembers how it was written, because that decides whether it may be added to: a table
with a header of its own or written inline is complete, one that only stands on the way to another
is not.
-/

namespace KeywordDocs.Toml

/-- How a table came to be. -/
inductive TableKind where
  /-- It has a header of its own. -/
  | explicit
  /-- It stands on the way to a table with a header. -/
  | implicit
  /-- It stands on the way to a dotted key. -/
  | dotted
  /-- It was written between braces. -/
  | inline
  deriving DecidableEq, Repr

/-- A TOML value. -/
inductive Value where
  | string (text : String)
  | integer (value : Int)
  /-- A floating-point number, of which only the magnitude is told: whether a double holds it. -/
  | real (inRange : Bool)
  | boolean (value : Bool)
  /-- A date, a time of day, or both. -/
  | moment
  /-- An array; `ofTables` tells that its items are tables with headers. -/
  | array (ofTables : Bool) (items : List Value)
  | table (kind : TableKind) (members : List (String × Value))
  deriving Repr

/-- The members of a table. -/
abbrev Members := List (String × Value)

end KeywordDocs.Toml
