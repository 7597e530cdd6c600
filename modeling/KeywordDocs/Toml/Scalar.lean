import KeywordDocs.Toml.Moment
import KeywordDocs.Toml.Value

/-!
# TOML scalars without quotes

Booleans, integers in four bases, floating-point numbers, dates and times. Digits may be grouped
by underscores, each between two digits.
-/

namespace KeywordDocs.Toml

/-- Is the character a hexadecimal digit? -/
def isHexDigit (c : Char) : Bool :=
  c.isDigit || ('a' ≤ c && c ≤ 'f') || ('A' ≤ c && c ≤ 'F')

/-- The value of a hexadecimal digit. -/
def hexDigitValue (c : Char) : Nat :=
  if c.isDigit then c.toNat - 48 else if 'a' ≤ c then c.toNat - 87 else c.toNat - 55

/-- The digits of a group of digits: at least one, with single underscores between them. -/
def digits? (isDigit : Char → Bool) (cs : List Char) : Option (List Char) :=
  let groups := Text.split '_' cs
  if groups.all fun g => g ≠ [] && g.all isDigit then some groups.flatten else none

/-- The number that digits write in a base. -/
def numberOf (base : Nat) (digits : List Char) : Nat :=
  digits.foldl (fun n d => n * base + hexDigitValue d) 0

/-- A number without a needless zero in front. -/
def decimal? (cs : List Char) : Option (List Char) :=
  (digits? Char.isDigit cs).filter fun ds => ds.head? ≠ some '0' || ds.length = 1

/-- The sign in front of a number, true for minus, and the rest. -/
def sign (cs : List Char) : Bool × List Char :=
  match cs with
  | '-' :: rest => (true, rest)
  | '+' :: rest => (false, rest)
  | _ => (false, cs)

/-- An integer. Only decimal ones take a sign. -/
def integer? (cs : List Char) : Option Int :=
  match cs with
  | '0' :: 'x' :: rest => (digits? isHexDigit rest).map fun ds => numberOf 16 ds
  | '0' :: 'o' :: rest =>
    (digits? (fun c => '0' ≤ c && c ≤ '7') rest).map fun ds => numberOf 8 ds
  | '0' :: 'b' :: rest =>
    (digits? (fun c => c = '0' || c = '1') rest).map fun ds => numberOf 2 ds
  | _ =>
    let (negative, rest) := sign cs
    (decimal? rest).map fun ds =>
      if negative then -(numberOf 10 ds : Int) else (numberOf 10 ds : Int)

/-- Is `digits · 10^exponent` below the least number that rounds to infinity in double precision? -/
def fitsDouble (digits : Nat) (exponent : Int) : Bool :=
  let limit := Nat.pow 2 1024 - Nat.pow 2 970
  let width : Int := (Nat.toDigits 10 digits).length
  if digits = 0 ∨ width + exponent ≤ 0 then true
  else if 400 < width + exponent then false
  else if 0 ≤ exponent then digits * Nat.pow 10 exponent.toNat < limit
  else digits < limit * Nat.pow 10 (-exponent).toNat

/-- A floating-point number: digits, then a fraction or an exponent or both. -/
def float? (cs : List Char) : Option Bool := do
  let (_, cs) := sign cs
  if cs = ['i', 'n', 'f'] ∨ cs = ['n', 'a', 'n'] then some true
  else
    let (mantissa, exponent) := cs.span fun c => c ≠ 'e' && c ≠ 'E'
    let (whole, fraction) := mantissa.span (· ≠ '.')
    if exponent = [] ∧ fraction = [] then none
    else
      let whole ← decimal? whole
      let fraction ← if fraction = [] then some [] else digits? Char.isDigit (fraction.drop 1)
      let (negative, power) ←
        if exponent = [] then some (false, 0)
        else
          let (negative, ds) := sign (exponent.drop 1)
          (digits? Char.isDigit ds).map fun ds => (negative, numberOf 10 ds)
      let shift : Int := if negative then -(power : Int) else power
      some (fitsDouble (numberOf 10 (whole ++ fraction)) (shift - fraction.length))

/-- A scalar without quotes. -/
def scalar? (cs : List Char) : Option Value :=
  if cs = "true".toList then some (.boolean true)
  else if cs = "false".toList then some (.boolean false)
  else if Moment.isMoment cs then some .moment
  else ((integer? cs).map .integer) <|> ((float? cs).map .real)

end KeywordDocs.Toml
