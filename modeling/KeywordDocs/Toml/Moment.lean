import KeywordDocs.Text.Split

/-!
# Dates and times

A moment is a date, a time of day, or a date with a time and possibly an offset. Only moments that
exist in the calendar are moments. The seconds may be left out.
-/

namespace KeywordDocs.Toml.Moment

/-- The number of a field of exactly `width` digits, and what follows. -/
def field? (width : Nat) (cs : List Char) : Option (Nat × List Char) :=
  let (digits, rest) := cs.span Char.isDigit
  if digits.length = width then
    some (digits.foldl (fun n d => n * 10 + (d.toNat - 48)) 0, rest)
  else none

/-- The number of days of a month. -/
def daysInMonth (year month : Nat) : Nat :=
  if month = 2 then
    if year % 4 = 0 ∧ (year % 100 ≠ 0 ∨ year % 400 = 0) then 29 else 28
  else if month ∈ [4, 6, 9, 11] then 30
  else 31

/-- Reads a mark. -/
def mark? (c : Char) : List Char → Option (List Char)
  | d :: rest => if d = c then some rest else none
  | [] => none

/-- Reads a date and gives what follows. -/
def date? (cs : List Char) : Option (List Char) := do
  let (year, cs) ← field? 4 cs
  let (month, cs) ← field? 2 (← mark? '-' cs)
  let (day, cs) ← field? 2 (← mark? '-' cs)
  if 1 ≤ month ∧ month ≤ 12 ∧ 1 ≤ day ∧ day ≤ daysInMonth year month then some cs else none

/-- Reads the fraction of a second, if there is one. -/
def fraction? : List Char → Option (List Char)
  | '.' :: rest =>
    let (digits, rest) := rest.span Char.isDigit
    if digits = [] then none else some rest
  | cs => some cs

/-- Reads a time of day and gives what follows. A minute may have a leap second. -/
def time? (cs : List Char) : Option (List Char) := do
  let (hour, cs) ← field? 2 cs
  let (minute, cs) ← field? 2 (← mark? ':' cs)
  if 23 < hour ∨ 59 < minute then none
  else
    match cs with
    | ':' :: rest => do
      let (second, rest) ← field? 2 rest
      if 60 < second then none else fraction? rest
    | _ => some cs

/-- Reads an offset from universal time. -/
def offset? : List Char → Option (List Char)
  | [] => some []
  | c :: rest =>
    if c = 'Z' ∨ c = 'z' then some rest
    else if c = '+' ∨ c = '-' then do
      let (hours, rest) ← field? 2 rest
      let (minutes, rest) ← field? 2 (← mark? ':' rest)
      if 23 < hours ∨ 59 < minutes then none else some rest
    else none

/-- Is the text a date, a time of day, or both? -/
def isMoment (cs : List Char) : Bool :=
  match date? cs with
  | some [] => true
  | some (c :: rest) =>
    (c = 'T' || c = 't' || c = ' ') && ((time? rest).bind offset?) = some []
  | none => time? cs = some []

end KeywordDocs.Toml.Moment
