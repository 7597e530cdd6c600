import KeywordDocs.Text.Alphanumeric
import KeywordDocs.Text.Blank

/-!
# Patterns

A pattern is a regular expression. Only whether a pattern is well formed is told here, not what it
matches. A pattern stands between braces, so it holds no closing brace of its own, and no counts.

Patterns know characters by their code points and nothing else of them. So classes such as `\d` and
`\w`, word boundaries and the search in any case are well formed only where the flag `u` is cleared,
and there a pattern may not ask for bytes that are no text.

The parts of a pattern may not be nested too deeply. The height of a part is the number of levels it
has: a group, a repetition, a class, a choice and a sequence of several parts are a level each.
-/

namespace KeywordDocs.Text.Pattern

/-- The flags that decide what is well formed. -/
structure Flags where
  /-- Letters match in any case. -/
  anyCase : Bool
  /-- Characters are code points, not bytes. -/
  unicode : Bool
  /-- Blanks and comments are passed over. -/
  spaced : Bool
  deriving DecidableEq, Repr

/-- The flags at the start of a pattern. -/
def Flags.start : Flags := ⟨false, true, false⟩

/-- Passes over blanks, and over comments that go from `#` to the end of the line. -/
def dropSpace : Bool → List Char → List Char
  | _, [] => []
  | true, c :: cs => dropSpace (c ≠ '\n') cs
  | false, c :: cs =>
    if isBlank c then dropSpace false cs
    else if c = '#' then dropSpace true cs
    else c :: cs

/-- Passes over what does not count. -/
def Flags.skip (f : Flags) (cs : List Char) : List Char := if f.spaced then dropSpace false cs else cs

/-- A part of a pattern that is written as one character or with a backslash. -/
inductive Item where
  /-- A character; `byte` tells that it is written as the number of a byte. -/
  | literal (char : Char) (byte : Bool)
  /-- A class with a letter for its name. -/
  | named (negated : Bool)
  /-- A class of characters by a property of the Unicode character database. -/
  | property
  /-- A word boundary. -/
  | boundary
  /-- The start or the end of a line or of the text. -/
  | anchor
  /-- Any character. -/
  | any
  deriving DecidableEq, Repr

/-- Is an item well formed outside brackets? -/
def Flags.allows (f : Flags) : Item → Bool
  | .literal c byte => if f.unicode then !f.anyCase else !(byte && 0x7F < c.toNat)
  | .named negated => !f.unicode && !negated
  | .property => false
  | .boundary => !f.unicode
  | .anchor => true
  | .any => f.unicode

/-- Is an item well formed inside brackets? -/
def Flags.allowsInClass (f : Flags) : Item → Bool
  | .literal c _ => f.unicode || c.toNat ≤ 0x7F
  | .named negated => !f.unicode && !negated
  | _ => false

/-! ### Heights -/

/-- The greatest of some heights. -/
def greatest (heights : List Nat) : Nat := heights.foldl max 0

/-- The height of parts that stand side by side: one part alone makes no level. -/
def sideBySide : List Nat → Nat
  | [] => 0
  | [height] => height
  | heights => 1 + greatest heights

/-- The greatest height of a pattern. -/
def maxHeight : Nat := 250

/-! ### Backslashes -/

/-- The value of a hexadecimal digit. -/
def hexValue? (c : Char) : Option Nat :=
  if c.isDigit then some (c.toNat - 48)
  else if 'a' ≤ c ∧ c ≤ 'f' then some (c.toNat - 87)
  else if 'A' ≤ c ∧ c ≤ 'F' then some (c.toNat - 55)
  else none

/-- Reads a number of hexadecimal digits. -/
def hexDigits? (f : Flags) : Nat → Nat → List Char → Option (Nat × List Char)
  | 0, value, cs => some (value, cs)
  | digits + 1, value, cs =>
    match f.skip cs with
    | [] => none
    | c :: rest => do hexDigits? f digits (value * 16 + (← hexValue? c)) rest

/-- Reads a character that is written by its number. -/
def numbered? (f : Flags) (digits : Nat) (cs : List Char) : Option (Item × List Char) := do
  let (n, rest) ← hexDigits? f digits 0 cs
  if n.isValidChar then some (.literal (Char.ofNat n) (digits = 2), rest) else none

/-- The characters that stand for themselves after a backslash although they are no marks. -/
def isPlainMark (c : Char) : Bool :=
  c.toNat < 0x80 && !c.isAlphanum && c ≠ '<' && c ≠ '>'

/-- Reads what follows a backslash. -/
def escape? (f : Flags) : List Char → Option (Item × List Char)
  | [] => none
  | c :: rest =>
    if c = 'x' then numbered? f 2 rest
    else if c = 'u' then numbered? f 4 rest
    else if c = 'U' then numbered? f 8 rest
    else if c = 'p' ∨ c = 'P' then some (.property, rest)
    else if c = 'd' ∨ c = 's' ∨ c = 'w' then some (.named false, rest)
    else if c = 'D' ∨ c = 'S' ∨ c = 'W' then some (.named true, rest)
    else if isPlainMark c ∨ c ∈ ['a', 'f', 't', 'n', 'r', 'v'] then some (.literal c false, rest)
    else if c = 'A' ∨ c = 'z' then some (.anchor, rest)
    else if c = 'b' ∨ c = 'B' ∨ c = '<' ∨ c = '>' then some (.boundary, rest)
    else none

/-! ### Classes in brackets -/

/-- The names of the classes of ASCII characters. -/
def asciiClasses : List String :=
  ["alnum", "alpha", "ascii", "blank", "cntrl", "digit", "graph", "lower", "print", "punct",
    "space", "upper", "word", "xdigit"]

/-- Reads a class of ASCII characters after its bracket: whether it is negated. -/
def asciiClass? : List Char → Option (Bool × List Char)
  | ':' :: cs =>
    let negated : Bool := cs.head? = some '^'
    let cs := if negated then cs.drop 1 else cs
    let name := cs.takeWhile (· ≠ ':')
    match cs.drop name.length with
    | ':' :: ']' :: rest =>
      if String.ofList name ∈ asciiClasses then some (negated, rest) else none
    | _ => none
  | _ => none

/-- Counts and passes over the minus signs at the front of a class, which stand for themselves. -/
def frontMinus (f : Flags) : Nat → List Char → Nat × List Char
  | 0, cs => (0, cs)
  | fuel + 1, cs =>
    match f.skip cs with
    | '-' :: rest => let (count, rest) := frontMinus f fuel rest; (count + 1, rest)
    | cs => (0, cs)

/-- Reads the start of a class after its bracket, and gives the heights of the items in it. A closing
bracket that comes first stands for itself. -/
def classStart? (f : Flags) (cs : List Char) : Option (List Nat × List Char) :=
  let cs := f.skip cs
  let negated : Bool := cs.head? = some '^'
  let cs := if negated then cs.drop 1 else cs
  let (count, rest) := frontMinus f (cs.length + 1) cs
  let (count, rest) := if count = 0 ∧ rest.head? = some ']' then (1, rest.drop 1) else (count, rest)
  if (f.unicode && f.anyCase) || (!f.unicode && negated) then none
  else some (List.replicate count 0, rest)

/-- Reads a character of a class, or an item with a backslash. -/
def classItem? (f : Flags) : List Char → Option (Item × List Char)
  | [] => none
  | '\\' :: rest => escape? f rest
  | c :: rest => some (.literal c false, rest)

/-- Are the items the two ends of a range? -/
def isRange (f : Flags) : Item → Item → Bool
  | .literal low b, .literal high b' =>
    low ≤ high && f.allowsInClass (.literal low b) && f.allowsInClass (.literal high b')
  | _, _ => false

/-- Reads an item or a range of a class. -/
def classRange? (f : Flags) (cs : List Char) : Option (List Char) := do
  let (first, rest) ← classItem? f cs
  match f.skip rest with
  | '-' :: more =>
    match f.skip more with
    | ']' :: _ | '-' :: _ => if f.allowsInClass first then some ('-' :: more) else none
    | more => do
      let (last, rest) ← classItem? f more
      if isRange f first last then some rest else none
  | rest => if f.allowsInClass first then some rest else none

/-- A class being read: the height of what stands before its last operator, and the heights of the
items after it, the latest first. -/
structure ClassDraft where
  before : Option Nat
  items : List Nat
  deriving DecidableEq, Repr

namespace ClassDraft

/-- A class at its start. -/
def start (items : List Nat) : ClassDraft := ⟨none, items⟩

/-- The height of what was read. -/
def height (d : ClassDraft) : Nat :=
  match d.before with
  | none => sideBySide d.items
  | some before => 1 + max before (sideBySide d.items)

/-- Adds an item. -/
def push (d : ClassDraft) (height : Nat) : ClassDraft := { d with items := height :: d.items }

/-- Passes an operator. -/
def pass (d : ClassDraft) : ClassDraft := ⟨some d.height, []⟩

end ClassDraft

/-- Reads the rest of a class, in the classes around it, and gives its height. -/
def classRest? (f : Flags) :
    Nat → ClassDraft → List ClassDraft → List Char → Option (Nat × List Char)
  | 0, _, _, _ => none
  | fuel + 1, d, around, cs =>
    match f.skip cs with
    | [] => none
    | ']' :: rest =>
      match around with
      | [] => some (1 + d.height, rest)
      | outer :: around => classRest? f fuel (outer.push (1 + d.height)) around rest
    | '[' :: rest =>
      match asciiClass? rest with
      | some (negated, rest) =>
        if !f.unicode && negated then none else classRest? f fuel (d.push 0) around rest
      | none => do
        let (items, rest) ← classStart? f rest
        classRest? f fuel (.start items) (d :: around) rest
    | '&' :: '&' :: rest | '-' :: '-' :: rest | '~' :: '~' :: rest =>
      classRest? f fuel d.pass around rest
    | cs => do classRest? f fuel (d.push 0) around (← classRange? f cs)

/-- Reads a class after its bracket and gives its height. -/
def class? (f : Flags) (cs : List Char) : Option (Nat × List Char) := do
  let (items, rest) ← classStart? f cs
  classRest? f (cs.length + 1) (.start items) [] rest

/-! ### Groups -/

/-- May the character stand in the name of a group, `first` telling whether it is the first one? -/
def isNameChar (first : Bool) (c : Char) : Bool :=
  c = '_' || if first then isLetter c else c ∈ ['.', '[', ']'] || isAlphanumeric c

/-- Reads the name of a group up to its closing mark. -/
def groupName? (cs : List Char) : Option (List Char × List Char) :=
  let name := cs.takeWhile (· ≠ '>')
  match name, cs.drop name.length with
  | c :: more, '>' :: rest =>
    if isNameChar true c && more.all (isNameChar false) then some (name, rest) else none
  | _, _ => none

/-- Sets or clears a flag. -/
def Flags.put (f : Flags) (value : Bool) (c : Char) : Flags :=
  if c = 'i' then { f with anyCase := value }
  else if c = 'u' then { f with unicode := value }
  else if c = 'x' then { f with spaced := value }
  else f

/-- The letters of the flags. -/
def flagLetters : List Char := ['i', 'm', 's', 'U', 'u', 'R', 'x']

/-- Takes the letters of flags: those after a minus sign are cleared. Each may stand once. -/
def takeFlags : Flags → Bool → List Char → List Char → Option Flags
  | f, _, _, [] => some f
  | f, value, seen, c :: rest =>
    if c ∈ seen then none
    else if c = '-' then if rest = [] then none else takeFlags f false (c :: seen) rest
    else if c ∈ flagLetters then takeFlags (f.put value c) value (c :: seen) rest
    else none

/-- What opens with a round bracket. -/
inductive Opening where
  /-- A group, with its name and its flags. -/
  | group (name : Option (List Char)) (flags : Flags)
  /-- Flags for the rest of the group around them. -/
  | flags (flags : Flags)
  deriving DecidableEq, Repr

/-- Reads what follows an opening round bracket. A group can not look around. -/
def opening? (f : Flags) (cs : List Char) : Option (Opening × List Char) :=
  match f.skip cs with
  | '?' :: 'P' :: '<' :: rest => named rest
  | '?' :: '<' :: c :: rest => if c = '!' ∨ c = '\x3d' then none else named (c :: rest)
  | '?' :: rest =>
    let letters := rest.takeWhile fun c => c ≠ ':' && c ≠ ')'
    match rest.drop letters.length, takeFlags f true [] letters with
    | ':' :: rest, some f => some (.group none f, rest)
    | ')' :: rest, some f => if letters = [] then none else some (.flags f, rest)
    | _, _ => none
  | rest => some (.group none f, rest)
where
  /-- A group with a name. -/
  named (cs : List Char) : Option (Opening × List Char) :=
    (groupName? cs).map fun (name, rest) => (.group (some name) f, rest)

/-! ### The whole -/

/-- A group being read, or the pattern as a whole. -/
structure Level where
  flags : Flags
  /-- The heights of the choices before. -/
  choices : List Nat
  /-- The heights of the parts, the latest first; flags are a part without height. -/
  parts : List (Option Nat)
  deriving DecidableEq, Repr

namespace Level

/-- A level at its start. -/
def start (f : Flags) : Level := ⟨f, [], []⟩

/-- Adds a part. -/
def push (l : Level) (height : Nat) : Level := { l with parts := some height :: l.parts }

/-- Sets flags for what follows. -/
def set (l : Level) (f : Flags) : Level := { l with flags := f, parts := none :: l.parts }

/-- The height of the parts since the last choice began. -/
def sequence (l : Level) : Nat := sideBySide (l.parts.map (·.getD 0))

/-- Begins the next choice. -/
def choose (l : Level) : Level := { l with choices := l.sequence :: l.choices, parts := [] }

/-- The height of the level. -/
def height (l : Level) : Nat := sideBySide (l.sequence :: l.choices)

/-- Repeats the last part, if there is one. -/
def again? (l : Level) : Option Level :=
  match l.parts with
  | some height :: parts => some { l with parts := some (height + 1) :: parts }
  | _ => none

end Level

/-- A pattern being read: the innermost group, the groups around it, and the names of groups. -/
structure Draft where
  inner : Level
  around : List Level
  names : List (List Char)
  deriving DecidableEq, Repr

/-- Reads an item outside brackets. -/
def item? (f : Flags) : List Char → Option (List Char)
  | [] => none
  | c :: rest => do
    let (item, rest) ←
      if c = '\\' then escape? f rest
      else if c = '.' then some (.any, rest)
      else if c = '^' ∨ c = '$' then some (.anchor, rest)
      else some (.literal c false, rest)
    if f.allows item then some rest else none

namespace Draft

/-- Enters a group or sets flags. -/
def enter? (d : Draft) : Opening → Option Draft
  | .flags f => some { d with inner := d.inner.set f }
  | .group name f =>
    if name.any (· ∈ d.names) then none
    else some ⟨.start f, d.inner :: d.around, name.toList ++ d.names⟩

/-- Leaves a group. -/
def leave? (d : Draft) : Option Draft :=
  match d.around with
  | outer :: around => some { d with inner := outer.push (1 + d.inner.height), around := around }
  | [] => none

/-- Reads the next part of a pattern. An opening brace would begin a count. -/
def step? (d : Draft) : List Char → Option (Draft × List Char)
  | '(' :: rest => do
    let (opening, rest) ← opening? d.inner.flags rest
    some (← d.enter? opening, rest)
  | ')' :: rest => do some (← d.leave?, rest)
  | '|' :: rest => some ({ d with inner := d.inner.choose }, rest)
  | '[' :: rest => do
    let (height, rest) ← class? d.inner.flags rest
    some ({ d with inner := d.inner.push height }, rest)
  | '?' :: rest | '*' :: rest | '+' :: rest => do
    let inner ← d.inner.again?
    some ({ d with inner := inner }, if rest.head? = some '?' then rest.drop 1 else rest)
  | '\x7b' :: _ => none
  | cs => do
    let rest ← item? d.inner.flags cs
    some ({ d with inner := d.inner.push 0 }, rest)

/-- Is the rest of a pattern well formed? -/
def accepts : Nat → Draft → List Char → Bool
  | 0, _, _ => false
  | fuel + 1, d, cs =>
    match d.inner.flags.skip cs with
    | [] => d.around = [] && d.inner.height ≤ maxHeight
    | cs =>
      match d.step? cs with
      | some (d, rest) => accepts fuel d rest
      | none => false

end Draft

/-- Is the pattern well formed? -/
def isWellFormed (cs : List Char) : Bool :=
  Draft.accepts (cs.length + 1) ⟨.start .start, [], []⟩ cs

end KeywordDocs.Text.Pattern
