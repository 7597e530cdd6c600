import KeywordDocs.Json.Number

/-!
# JSON tokens

A text is cut into tokens by a machine that reads one character at a time, so that it ends on
every text and needs no look-ahead. The text of a string token is missing when one of its
escapes names half of a surrogate pair without the other half: such a string is well formed but
stands for no text.
-/

namespace KeywordDocs.Json

/-- A token of JSON. -/
inductive Token where
  | openArray
  | closeArray
  | openObject
  | closeObject
  | comma
  | colon
  | null
  | bool (value : Bool)
  | number (numeral : Numeral)
  | string (text : Option String)
  deriving DecidableEq, Repr

/-- A string being read: its characters so far, latest first, a high surrogate whose other half
is due, and whether all surrogates so far were paired. -/
structure Partial where
  reversed : List Char
  high : Option Nat
  paired : Bool
  deriving DecidableEq, Repr

namespace Partial

/-- The string at its opening quote. -/
def empty : Partial := ⟨[], none, true⟩

/-- Adds a character that was written as itself or as a short escape. -/
def push (p : Partial) (c : Char) : Partial := ⟨c :: p.reversed, none, p.paired && p.high.isNone⟩

/-- Adds the unit of a `\u` escape. -/
def pushUnit (p : Partial) (n : Nat) : Partial :=
  match p.high with
  | some h =>
    if 0xDC00 ≤ n ∧ n ≤ 0xDFFF then
      ⟨Char.ofNat ((h - 0xD800) * 0x400 + (n - 0xDC00) + 0x10000) :: p.reversed, none, p.paired⟩
    else ⟨p.reversed, none, false⟩
  | none =>
    if 0xD800 ≤ n ∧ n ≤ 0xDBFF then ⟨p.reversed, some n, p.paired⟩
    else if 0xDC00 ≤ n ∧ n ≤ 0xDFFF then ⟨p.reversed, none, false⟩
    else ⟨Char.ofNat n :: p.reversed, none, p.paired⟩

/-- The text of the string at its closing quote. -/
def finish (p : Partial) : Option String :=
  if p.paired && p.high.isNone then some (String.ofList p.reversed.reverse) else none

end Partial

/-- Where the machine stands. -/
inductive Scan where
  /-- Between tokens. -/
  | between
  /-- In a numeral or in a word, its characters latest first. -/
  | word (reversed : List Char)
  /-- In a string. -/
  | quoted (text : Partial)
  /-- In a string, after a backslash. -/
  | escape (text : Partial)
  /-- In a string, in a `\u` escape: the digits so far as a number, and how many are due. -/
  | hex (text : Partial) (unit : Nat) (due : Nat)
  deriving DecidableEq, Repr

/-- The blanks that JSON allows between tokens. -/
def isGap (c : Char) : Bool := c = ' ' || c = '\n' || c = '\t' || c = '\r'

/-- The token that is a single mark. -/
def mark? (c : Char) : Option Token :=
  if c = '[' then some .openArray
  else if c = ']' then some .closeArray
  else if c = '\x7b' then some .openObject
  else if c = '\x7d' then some .closeObject
  else if c = ',' then some .comma
  else if c = ':' then some .colon
  else none

/-- The token a word is. -/
def wordToken? (cs : List Char) : Option Token :=
  if cs = ['n', 'u', 'l', 'l'] then some .null
  else if cs = ['t', 'r', 'u', 'e'] then some (.bool true)
  else if cs = ['f', 'a', 'l', 's', 'e'] then some (.bool false)
  else (Numeral.ofChars? cs).map .number

/-- The character a short escape stands for. -/
def shortEscape? (c : Char) : Option Char :=
  if c = '"' ∨ c = '\\' ∨ c = '/' then some c
  else if c = 'b' then some (Char.ofNat 8)
  else if c = 'f' then some (Char.ofNat 12)
  else if c = 'n' then some '\n'
  else if c = 'r' then some '\r'
  else if c = 't' then some '\t'
  else none

/-- The value of a hexadecimal digit. -/
def hexValue? (c : Char) : Option Nat :=
  let n := c.toNat
  if 48 ≤ n ∧ n ≤ 57 then some (n - 48)
  else if 97 ≤ n ∧ n ≤ 102 then some (n - 87)
  else if 65 ≤ n ∧ n ≤ 70 then some (n - 55)
  else none

/-- What a character between tokens begins: the state after it and the token it completes. -/
def beginToken (c : Char) : Scan × List Token :=
  if isGap c then (.between, [])
  else if c = '"' then (.quoted .empty, [])
  else
    match mark? c with
    | some t => (.between, [t])
    | none => (.word [c], [])

/-- One character: the state after it and the tokens it completes. -/
def step (c : Char) : Scan → Option (Scan × List Token)
  | .between => some (beginToken c)
  | .word reversed =>
    if isGap c ∨ c = '"' ∨ (mark? c).isSome then do
      let t ← wordToken? reversed.reverse
      let (s, ts) := beginToken c
      some (s, t :: ts)
    else some (.word (c :: reversed), [])
  | .quoted p =>
    if c = '"' then some (.between, [.string p.finish])
    else if c = '\\' then some (.escape p, [])
    else if c.toNat < 32 then none
    else some (.quoted (p.push c), [])
  | .escape p =>
    if c = 'u' then some (.hex p 0 4, []) else (shortEscape? c).map fun e => (.quoted (p.push e), [])
  | .hex p unit due => do
    let v ← hexValue? c
    let unit := unit * 16 + v
    some (if due ≤ 1 then .quoted (p.pushUnit unit) else .hex p unit (due - 1), [])

/-- The tokens of a text read from a state on. -/
def scanFrom : Scan → List Char → Option (List Token)
  | .between, [] => some []
  | .word reversed, [] => (wordToken? reversed.reverse).map ([·])
  | _, [] => none
  | s, c :: cs => do
    let (s, ts) ← step c s
    let rest ← scanFrom s cs
    some (ts ++ rest)

/-- The tokens of a text, if it consists of tokens. -/
def tokens? (text : String) : Option (List Token) := scanFrom .between text.toList

end KeywordDocs.Json
