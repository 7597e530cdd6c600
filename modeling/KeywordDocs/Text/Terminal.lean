/-!
# Text without terminal control

A text may hold control sequences, which a terminal carries out and does not show. They start with
the escape character. What is written to something other than a terminal leaves them out, and with
them the control characters other than line ends and tabs.
-/

namespace KeywordDocs.Text.Terminal

/-- Where the reading of a text stands. -/
inductive Mode where
  /-- Outside of control sequences. -/
  | text
  /-- After the escape character. -/
  | escape
  /-- In a sequence that ends with the next letter, digit or such. -/
  | short
  /-- In a sequence with numbers, which ends with a letter. -/
  | control
  /-- In a command for the terminal, which ends with the bell. -/
  | command
  /-- In a string for a device, which only another sequence ends. -/
  | device
  deriving DecidableEq, Repr

/-- Does the character move on the page and show nothing? -/
def isSpacing (c : Char) : Bool := c = '\t' || c = '\n' || c = '\x0c' || c = '\r'

/-- Is the character shown outside of control sequences? -/
def isShown (c : Char) : Bool := isSpacing c || (0x20 ≤ c.toNat && c.toNat ≠ 0x7F)

/-- What follows the escape character, if it is neither blank nor control. -/
def afterEscape (c : Char) : Mode :=
  if c = '[' then .control
  else if c = ']' then .command
  else if c ∈ ['P', 'X', '^', '_'] then .device
  else .text

/-- Inside a sequence that `final` characters end: a line end or a tab breaks it off and is shown. -/
def inside (m : Mode) (final : Nat) (c : Char) : Bool × Mode :=
  if isSpacing c then (true, .text)
  else if c.toNat < final ∨ c.toNat = 0x7F then (false, m)
  else (false, .text)

/-- Takes a character: is it shown, and what comes after it? -/
def step (m : Mode) (c : Char) : Bool × Mode :=
  if c = '\x1b' then (false, .escape)
  else if c = '\x18' ∨ c = '\x1a' then (false, .text)
  else if 0x80 ≤ c.toNat then (m = .text, m)
  else
    match m with
    | .text => (isShown c, .text)
    | .escape =>
      if isSpacing c then (true, .text)
      else if c.toNat < 0x20 ∨ c.toNat = 0x7F then (false, .escape)
      else if c.toNat < 0x30 then (false, .short)
      else (false, afterEscape c)
    | .short => inside .short 0x30 c
    | .control => inside .control 0x40 c
    | .command => (false, if c = '\x07' then .text else .command)
    | .device => (false, .device)

/-- The characters of a text that are shown. -/
def shown : Mode → List Char → List Char
  | _, [] => []
  | m, c :: cs => if (step m c).1 then c :: shown (step m c).2 cs else shown (step m c).2 cs

/-- A text without control sequences. -/
def plain (s : String) : String := String.ofList (shown .text s.toList)

/-- What is shown holds no control characters but line ends and tabs. -/
theorem isShown_of_mem_shown {m : Mode} {cs : List Char} {c : Char} (h : c ∈ shown m cs) :
    isShown c := by
  induction cs generalizing m with
  | nil => cases h
  | cons d ds ih =>
    rw [shown] at h
    split at h
    next hd =>
      cases h with
      | tail _ h => exact ih h
      | head =>
        simp only [step] at hd
        repeat' split at hd
        all_goals simp_all [inside, isShown]
        all_goals grind
    next => exact ih h

end KeywordDocs.Text.Terminal
