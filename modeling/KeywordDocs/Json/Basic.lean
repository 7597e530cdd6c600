import KeywordDocs.Json.Number

/-!
# JSON values and their text

Objects keep their members in order. A value is written on one line, or spread over lines with an
indentation of two blanks per level; the two texts differ only in blanks between tokens.
-/

namespace KeywordDocs

/-- A JSON value. -/
inductive Json where
  | null
  | bool (value : Bool)
  | number (value : Json.Number)
  | string (text : String)
  | array (items : List Json)
  | object (members : List (String × Json))
  deriving Repr

namespace Json

/-- The text of an optional text: `null` when there is none. -/
def ofOption : Option String → Json
  | none => .null
  | some s => .string s

/-- The array of some texts. -/
def ofStrings (texts : List String) : Json := .array (texts.map .string)

/-- The value of the first member with this name. -/
def get? (name : String) : Json → Option Json
  | .object members => members.lookup name
  | _ => none

/-- A control character as an escape of four hexadecimal digits. -/
def controlEscape (n : Nat) : List Char :=
  ['\\', 'u', '0', '0', Nat.digitChar (n / 16), Nat.digitChar (n % 16)]

/-- A character inside a string. Quotes, backslashes and control characters are escaped. -/
def escapeChar (c : Char) : List Char :=
  if c = '"' then ['\\', '"']
  else if c = '\\' then ['\\', '\\']
  else if c.toNat = 8 then ['\\', 'b']
  else if c.toNat = 12 then ['\\', 'f']
  else if c = '\n' then ['\\', 'n']
  else if c = '\r' then ['\\', 'r']
  else if c = '\t' then ['\\', 't']
  else if c.toNat < 32 then controlEscape c.toNat
  else [c]

/-- A string in quotes. -/
def quote (s : String) : List Char := '"' :: (s.toList.flatMap escapeChar ++ ['"'])

/-- Where line breaks and blanks go. -/
inductive Layout where
  /-- All on one line, without blanks. -/
  | compact
  /-- A line per item, indented by two blanks per level. -/
  | pretty
  deriving DecidableEq, Repr

/-- What stands before an item at this level, or before the bracket that closes the level above. -/
def Layout.lineBreak (layout : Layout) (level : Nat) : List Char :=
  match layout with
  | .compact => []
  | .pretty => '\n' :: List.replicate (2 * level) ' '

/-- What stands between a name and its value. -/
def Layout.colon : Layout → List Char
  | .compact => [':']
  | .pretty => [':', ' ']

mutual

/-- A value in writing, at a level of nesting. -/
def render (layout : Layout) (level : Nat) : Json → List Char
  | .null => ['n', 'u', 'l', 'l']
  | .bool true => ['t', 'r', 'u', 'e']
  | .bool false => ['f', 'a', 'l', 's', 'e']
  | .number n => n.chars
  | .string s => quote s
  | .array [] => ['[', ']']
  | .array (item :: items) =>
    '[' :: (layout.lineBreak (level + 1) ++ render layout (level + 1) item ++
      renderItems layout (level + 1) items) ++ layout.lineBreak level ++ [']']
  | .object [] => ['\x7b', '\x7d']
  | .object (member :: members) =>
    '\x7b' :: (layout.lineBreak (level + 1) ++ renderMember layout (level + 1) member ++
      renderMembers layout (level + 1) members) ++ layout.lineBreak level ++ ['\x7d']

/-- The items of an array after the first one. -/
def renderItems (layout : Layout) (level : Nat) : List Json → List Char
  | [] => []
  | item :: items =>
    ',' :: (layout.lineBreak level ++ render layout level item ++ renderItems layout level items)

/-- A member of an object: its name and its value. -/
def renderMember (layout : Layout) (level : Nat) : String × Json → List Char
  | (name, value) => quote name ++ layout.colon ++ render layout level value

/-- The members of an object after the first one. -/
def renderMembers (layout : Layout) (level : Nat) : List (String × Json) → List Char
  | [] => []
  | member :: members =>
    ',' :: (layout.lineBreak level ++ renderMember layout level member ++
      renderMembers layout level members)

end

/-- A value on one line. -/
def compact (v : Json) : String := String.ofList (v.render .compact 0)

/-- A value spread over lines. -/
def pretty (v : Json) : String := String.ofList (v.render .pretty 0)

end Json

end KeywordDocs
