import KeywordDocs.Toml.Scalar
import KeywordDocs.Toml.Table

/-!
# Reading TOML

A document is read line by line into statements. Arrays and inline tables may spread over lines and
hold comments, and may end in a comma. They nest to a fixed depth; all other repetition is bounded
by the length of the text.
-/

namespace KeywordDocs.Toml

/-- Reads something from the front of a text and gives the rest. -/
abbrev Reader (α : Type) := List Char → Option (α × List Char)

/-- The characters that strings and comments may hold. -/
def isAllowed (c : Char) : Bool := c = '\t' || (0x20 ≤ c.toNat && c.toNat ≠ 0x7F)

/-- Is the character a blank inside a line? -/
def isSpace (c : Char) : Bool := c = ' ' || c = '\t'

/-- Skips blanks inside a line. -/
def skipSpace (cs : List Char) : List Char := cs.dropWhile isSpace

/-- Skips blanks, line ends and comments, `comment` telling whether one has begun. -/
def skipGap : Bool → List Char → Option (List Char)
  | _, [] => some []
  | _, '\n' :: cs => skipGap false cs
  | _, '\r' :: '\n' :: cs => skipGap false cs
  | true, c :: cs => if isAllowed c then skipGap true cs else none
  | false, c :: cs =>
    if isSpace c then skipGap false cs
    else if c = '#' then skipGap true cs
    else some (c :: cs)

/-- Reads the end of a line: blanks, a comment, and the line end or the end of the text. -/
def endOfLine? (cs : List Char) : Option (List Char) :=
  let cs := skipSpace cs
  let cs := if cs.head? = some '#' then cs.dropWhile isAllowed else cs
  match cs with
  | [] => some []
  | '\n' :: rest => some rest
  | '\r' :: '\n' :: rest => some rest
  | _ => none

/-! ### Strings -/

/-- Reads the digits of a numeric escape. -/
def codeEscape? (width : Nat) : Reader Char := fun cs =>
  let digits := cs.take width
  if digits.length = width ∧ digits.all isHexDigit then
    let n := numberOf 16 digits
    if n.isValidChar then some (Char.ofNat n, cs.drop width) else none
  else none

/-- Reads an escape after its backslash. -/
def escape? : Reader Char
  | [] => none
  | c :: rest =>
    if c = '"' ∨ c = '\\' then some (c, rest)
    else if c = 'b' then some (Char.ofNat 8, rest)
    else if c = 't' then some ('\t', rest)
    else if c = 'n' then some ('\n', rest)
    else if c = 'f' then some (Char.ofNat 12, rest)
    else if c = 'r' then some ('\r', rest)
    else if c = 'e' then some (Char.ofNat 27, rest)
    else if c = 'x' then codeEscape? 2 rest
    else if c = 'u' then codeEscape? 4 rest
    else if c = 'U' then codeEscape? 8 rest
    else none

/-- Reads a string in double quotes after its opening quote. -/
def basic? : Nat → Reader (List Char)
  | 0, _ => none
  | _ + 1, [] => none
  | _ + 1, '"' :: rest => some ([], rest)
  | fuel + 1, '\\' :: rest => do
    let (c, rest) ← escape? rest
    let (cs, rest) ← basic? fuel rest
    some (c :: cs, rest)
  | fuel + 1, c :: rest =>
    if isAllowed c then do
      let (cs, rest) ← basic? fuel rest
      some (c :: cs, rest)
    else none

/-- Reads a string in single quotes after its opening quote. -/
def literal? (cs : List Char) : Option (List Char × List Char) :=
  let (body, rest) := cs.span fun c => c ≠ '\x27' && isAllowed c
  match rest with
  | '\x27' :: rest => some (body, rest)
  | _ => none

/-- Skips the line end right after the opening quotes of a text over several lines. -/
def skipFirstBreak : List Char → List Char
  | '\n' :: rest => rest
  | '\r' :: '\n' :: rest => rest
  | cs => cs

/-- Up to two quotes before the three that close a text belong to it. -/
def closing (quote : Char) (rest : List Char) : List Char × List Char :=
  let extra := (rest.take 2).takeWhile (· = quote)
  (extra, rest.drop extra.length)

/-- Skips a line end that was taken back by a backslash: blanks up to it, it, and the blanks and
line ends after it. -/
def takenBack? (cs : List Char) : Option (List Char) :=
  match skipSpace cs with
  | '\n' :: rest => some (skipBreaks rest)
  | '\r' :: '\n' :: rest => some (skipBreaks rest)
  | _ => none
where
  /-- Skips blanks and line ends. -/
  skipBreaks : List Char → List Char
    | '\r' :: '\n' :: rest => skipBreaks rest
    | c :: rest => if isSpace c ∨ c = '\n' then skipBreaks rest else c :: rest
    | [] => []

/-- Reads a text over several lines with escapes, after its opening quotes. -/
def longBasic? : Nat → Reader (List Char)
  | 0, _ => none
  | _ + 1, [] => none
  | _ + 1, '"' :: '"' :: '"' :: rest => some (closing '"' rest)
  | fuel + 1, '\\' :: rest =>
    if rest.head?.any fun c => isSpace c || c = '\n' || c = '\r' then do
      longBasic? fuel (← takenBack? rest)
    else do
      let (c, rest) ← escape? rest
      let (cs, rest) ← longBasic? fuel rest
      some (c :: cs, rest)
  | fuel + 1, '\r' :: '\n' :: rest => do
    let (cs, rest) ← longBasic? fuel rest
    some ('\r' :: '\n' :: cs, rest)
  | fuel + 1, c :: rest =>
    if isAllowed c ∨ c = '\n' then do
      let (cs, rest) ← longBasic? fuel rest
      some (c :: cs, rest)
    else none

/-- Reads a text over several lines without escapes, after its opening quotes. -/
def longLiteral? : Reader (List Char)
  | [] => none
  | '\x27' :: '\x27' :: '\x27' :: rest => some (closing '\x27' rest)
  | '\r' :: '\n' :: rest => do
    let (cs, rest) ← longLiteral? rest
    some ('\r' :: '\n' :: cs, rest)
  | c :: rest =>
    if isAllowed c ∨ c = '\n' then do
      let (cs, rest) ← longLiteral? rest
      some (c :: cs, rest)
    else none

/-! ### Keys -/

/-- The characters of a key without quotes. -/
def isBare (c : Char) : Bool := c.isAlphanum || c = '_' || c = '-'

/-- Reads one part of a key. -/
def keyPart? : Reader String
  | '"' :: rest => (basic? (rest.length + 1) rest).map fun (cs, rest) => (String.ofList cs, rest)
  | '\x27' :: rest => (literal? rest).map fun (cs, rest) => (String.ofList cs, rest)
  | cs =>
    let (bare, rest) := cs.span isBare
    if bare = [] then none else some (String.ofList bare, rest)

/-- Reads the parts of a key, not more than a number of them: those before the last one, and the
last one. -/
def keyPath? : Nat → Reader (List String × String)
  | 0, _ => none
  | parts + 1, cs => do
    let (part, rest) ← keyPart? (skipSpace cs)
    match skipSpace rest with
    | '.' :: rest => do
      let ((path, last), rest) ← keyPath? parts rest
      some ((part :: path, last), rest)
    | rest => some (([], part), rest)

/-- The largest number of parts of a key. -/
def maxKeyParts : Nat := 80

/-- Reads a key. -/
def key? : Reader (List String × String) := keyPath? maxKeyParts

/-! ### Values -/

/-- The characters that end a scalar without quotes. -/
def endsScalar (c : Char) : Bool :=
  c = ' ' || c = '\t' || c = '\n' || c = '\r' || c = ',' || c = ']' || c = '\x7d' || c = '#'

/-- Reads a scalar without quotes. A blank may stand between a date and its time. -/
def plain? : Reader Value := fun cs =>
  let (word, rest) := cs.span (!endsScalar ·)
  let (word, rest) :=
    match Moment.date? word, rest with
    | some [], ' ' :: c :: more =>
      if c.isDigit then
        let (time, rest) := (c :: more).span (!endsScalar ·)
        (word ++ ' ' :: time, rest)
      else (word, rest)
    | _, _ => (word, rest)
  (scalar? word).map (·, rest)

/-- Reads the items of an array after its opening bracket. -/
def items? (item : Reader Value) : Nat → Reader (List Value)
  | 0, _ => none
  | fuel + 1, cs => do
    match ← skipGap false cs with
    | ']' :: rest => some ([], rest)
    | cs =>
      let (v, rest) ← item cs
      match ← skipGap false rest with
      | ',' :: rest => do
        let (vs, rest) ← items? item fuel rest
        some (v :: vs, rest)
      | ']' :: rest => some ([v], rest)
      | _ => none

/-- Reads a key, the mark between key and value, and a value; `skip` passes over what may stand
around the mark. -/
def assignment? (skip : List Char → Option (List Char)) (value : Reader Value) :
    Reader (List String × String × Value) := fun cs => do
  let ((path, key), rest) ← key? cs
  match ← skip rest with
  | '=' :: rest => do
    let (v, rest) ← value (← skip rest)
    some ((path, key, v), rest)
  | _ => none

/-- Reads the members of an inline table after its opening brace. -/
def members? (value : Reader Value) : Nat → Reader (List (List String × String × Value))
  | 0, _ => none
  | fuel + 1, cs => do
    match ← skipGap false cs with
    | '\x7d' :: rest => some ([], rest)
    | cs =>
      let (m, rest) ← assignment? (skipGap false) value cs
      match ← skipGap false rest with
      | ',' :: rest => do
        let (ms, rest) ← members? value fuel rest
        some (m :: ms, rest)
      | '\x7d' :: rest => some ([m], rest)
      | _ => none

/-- Reads a value in which arrays and inline tables are nested at most `depth` deep. -/
def value? : Nat → Reader Value
  | depth, cs =>
    match cs with
    | '"' :: '"' :: '"' :: rest =>
      (longBasic? (rest.length + 1) (skipFirstBreak rest)).map text
    | '"' :: rest => (basic? (rest.length + 1) rest).map text
    | '\x27' :: '\x27' :: '\x27' :: rest => (longLiteral? (skipFirstBreak rest)).map text
    | '\x27' :: rest => (literal? rest).map text
    | '[' :: rest =>
      match depth with
      | 0 => none
      | depth + 1 => do
        let (vs, rest) ← items? (value? depth) (rest.length + 1) rest
        some (.array false vs, rest)
    | '\x7b' :: rest =>
      match depth with
      | 0 => none
      | depth + 1 => do
        let (ms, rest) ← members? (value? depth) (rest.length + 1) rest
        some (← buildInline ms, rest)
    | _ => plain? cs
where
  /-- The string of some characters. -/
  text : List Char × List Char → Value × List Char
    | (cs, rest) => (.string (String.ofList cs), rest)

/-! ### Documents -/

/-- The deepest nesting of arrays and inline tables. -/
def maxNesting : Nat := 80

/-- Reads a header after its opening bracket, up to its closing one. -/
def header? : Reader (List String × String) := fun cs => do
  let (path, rest) ← key? cs
  match skipSpace rest with
  | ']' :: rest => some (path, rest)
  | _ => none

/-- Reads a statement, without the end of its line. -/
def statement? : Reader Statement
  | '[' :: '[' :: rest => do
    let ((path, key), rest) ← header? rest
    match rest with
    | ']' :: rest => some (.itemHeader path key, rest)
    | _ => none
  | '[' :: rest => do
    let ((path, key), rest) ← header? rest
    some (.header path key, rest)
  | cs => do
    let ((path, key, v), rest) ← assignment? (some ∘ skipSpace) (value? maxNesting) cs
    some (.assignment path key v, rest)

/-- Reads the statements of a text. -/
def statements? : Nat → List Char → Option (List Statement)
  | 0, _ => none
  | fuel + 1, cs => do
    match ← skipGap false cs with
    | [] => some []
    | cs =>
      let (s, rest) ← statement? cs
      let rest ← endOfLine? rest
      let ss ← statements? fuel rest
      some (s :: ss)

/-- Skips a byte order mark. -/
def skipMark : List Char → List Char
  | c :: cs => if c.toNat = 0xFEFF then cs else c :: cs
  | [] => []

/-- The table that a text is, if it is TOML. -/
def read? (text : String) : Option Members :=
  let cs := skipMark text.toList
  (statements? (cs.length + 1) cs).bind build

end KeywordDocs.Toml
