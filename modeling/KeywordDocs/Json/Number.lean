import KeywordDocs.Decimal.Shortest

/-!
# JSON numbers

A number is an integer of 64 bits or a double. A number without fraction and exponent is an
integer when it fits, signed or unsigned, and a double otherwise; `-0` is a double.

Reading a double multiplies or divides the digits that fit into 64 bits by a power of ten, in
double precision; digits beyond these only count for the magnitude. A number that is too large for
a double can not be read. Writing uses the fewest digits that read back, positionally when the
point falls near them.
-/

namespace KeywordDocs.Json

/-- A number as JSON distinguishes them. -/
inductive Number where
  | integer (value : Int)
  | real (bits : UInt64)
  deriving DecidableEq, Repr

/-- A number as it is written: sign, digits before the point, digits after the point and
exponent with its sign. -/
structure Numeral where
  negative : Bool
  whole : List Char
  fraction : Option (List Char)
  exponent : Option (Bool × List Char)
  deriving DecidableEq, Repr

/-- The value of a digit character. -/
def digitValue (c : Char) : Nat := c.toNat - 48

/-- Digits up to the first other character, and the rest. -/
def spanDigits (cs : List Char) : List Char × List Char := cs.span Char.isDigit

/-- Reads the exponent at the end of a numeral. -/
def readExponent? : List Char → Option (Option (Bool × List Char))
  | [] => some none
  | c :: rest =>
    if c = 'e' ∨ c = 'E' then
      let (negative, digits) :=
        match rest with
        | '-' :: ds => (true, ds)
        | '+' :: ds => (false, ds)
        | ds => (false, ds)
      if digits ≠ [] ∧ digits.all Char.isDigit then some (some (negative, digits)) else none
    else none

/-- Reads a numeral: no sign but `-`, no needless zero in front, digits on both sides of a point. -/
def Numeral.ofChars? (cs : List Char) : Option Numeral := do
  let (negative, cs) := match cs with
    | '-' :: rest => (true, rest)
    | _ => (false, cs)
  let (whole, cs) := spanDigits cs
  if whole = [] ∨ (whole.head? = some '0' ∧ whole.length ≠ 1) then none
  else
    let (fraction, cs) := match cs with
      | '.' :: rest => let (ds, rest) := spanDigits rest; (some ds, rest)
      | _ => (none, cs)
    if fraction = some [] then none
    else
      let exponent ← readExponent? cs
      some ⟨negative, whole, fraction, exponent⟩

/-- The value of the highest of 64 bits, two to the power of 63. -/
def signBit : Nat := 9223372036854775808

/-- The largest unsigned number of 64 bits. -/
def maxUnsigned : Nat := 18446744073709551615

/-- Appends digits to a number for as long as it fits into 64 bits, and tells which are left. -/
def takeDigits : Nat → List Char → Nat × List Char
  | n, [] => (n, [])
  | n, d :: ds =>
    if maxUnsigned < n * 10 + digitValue d then (n, d :: ds) else takeDigits (n * 10 + digitValue d) ds

/-- A power of ten as a double. -/
def powerOfTen (e : Nat) : Float := Float.ofScientific 1 false e

/-- `digits · 10^exponent` in double precision; none when it is too large. The bound on the
divisions by `10^308` is one that no nonzero number survives. -/
def scale : Nat → Float → Int → Option Float
  | 0, f, _ => some f
  | fuel + 1, f, exponent =>
    if exponent.natAbs ≤ 308 then
      if 0 ≤ exponent then
        let g := f * powerOfTen exponent.natAbs
        if g.isInf then none else some g
      else some (f / powerOfTen exponent.natAbs)
    else if f == 0.0 then some f
    else if 0 ≤ exponent then none
    else scale fuel (f / powerOfTen 308) (exponent + 308)

/-- The double with this sign and magnitude. -/
def signed (negative : Bool) (f : Float) : Number := .real (if negative then (-f).toBits else f.toBits)

/-- The largest exponent that is taken at its value. -/
def maxExponent : Nat := 2147483647

/-- Reads a numeral as a double. -/
def Numeral.toReal? (n : Numeral) : Option Number :=
  let (whole, dropped) := takeDigits 0 n.whole
  let (digits, rest) := takeDigits whole (n.fraction.getD [])
  let shift : Int := dropped.length - (((n.fraction.getD []).length : Int) - rest.length)
  let f := (UInt64.ofNat digits).toFloat
  match n.exponent with
  | none => (scale 4 f shift).map (signed n.negative)
  | some (negativeExponent, ds) =>
    let e := ds.foldl (fun acc d => acc * 10 + digitValue d) 0
    if maxExponent < e then
      if digits ≠ 0 ∧ ¬ negativeExponent then none else some (signed n.negative 0.0)
    else
      (scale 4 f (if negativeExponent then shift - e else shift + e)).map (signed n.negative)

/-- Reads a numeral as a number. -/
def Numeral.toNumber? (n : Numeral) : Option Number :=
  if n.fraction = none ∧ n.exponent = none then
    let value := n.whole.foldl (fun acc d => acc * 10 + digitValue d) 0
    if ¬ n.negative ∧ value ≤ maxUnsigned then some (.integer value)
    else if n.negative ∧ 0 < value ∧ value ≤ signBit then some (.integer (-value))
    else n.toReal?
  else n.toReal?

/-- The decimal digits of a number. -/
def natChars (n : Nat) : List Char := Nat.toDigits 10 n

/-- The decimal digits of an integer, with its sign. -/
def intChars (n : Int) : List Char :=
  if n < 0 then '-' :: natChars n.natAbs else natChars n.natAbs

/-- The exponent of ten in writing, with a sign in any case. -/
def exponentChars (n : Int) : List Char := if 0 ≤ n then '+' :: intChars n else intChars n

/-- A positive decimal in writing: positional when its point lies at most 16 places behind the
first digit or at most 5 places before it, with an exponent otherwise. -/
def scientificChars (d : Decimal.Scientific) : List Char :=
  let digits := natChars d.digits
  let count := digits.length
  let point : Int := count + d.exponent
  if 0 ≤ d.exponent ∧ point ≤ 16 then digits ++ List.replicate d.exponent.toNat '0' ++ ['.', '0']
  else if 0 < point ∧ point ≤ 16 then digits.take point.toNat ++ '.' :: digits.drop point.toNat
  else if -5 < point ∧ point ≤ 0 then
    '0' :: '.' :: List.replicate (-point).toNat '0' ++ digits
  else if count = 1 then digits ++ 'e' :: exponentChars (point - 1)
  else digits.take 1 ++ '.' :: digits.drop 1 ++ 'e' :: exponentChars (point - 1)

/-- A number in writing. -/
def Number.chars : Number → List Char
  | .integer n => intChars n
  | .real bits =>
    let sign := if bits.toNat / signBit = 1 then ['-'] else []
    let b := Decimal.Binary.ofBits bits
    sign ++ if b.mantissa = 0 then ['0', '.', '0'] else scientificChars b.shortest

end KeywordDocs.Json
