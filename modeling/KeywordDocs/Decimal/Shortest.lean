/-!
# The fewest digits that read back

A finite double is `m · 2^q`. The reals that round to it form an interval around it, whose ends
belong to it when `m` is even. `shortest` gives the decimal with the fewest digits in that
interval; of two with equally many digits the nearer one, and of two equally near ones the one
with the even last digit.
-/

namespace KeywordDocs.Decimal

/-- A positive double as `mantissa · 2^exponent`; `narrow` tells that the interval below it is only
half as wide as the one above it. -/
structure Binary where
  mantissa : Nat
  exponent : Int
  narrow : Bool
  deriving DecidableEq, Repr

/-- A positive decimal, `digits · 10^exponent`. -/
structure Scientific where
  digits : Nat
  exponent : Int
  deriving DecidableEq, Repr

/-- The number of fractions of a double, two to the power of 52. -/
def fractionSize : Nat := 4503599627370496

/-- The magnitude of the double with these bits, the sign bit left out of account. -/
def Binary.ofBits (bits : UInt64) : Binary :=
  let fraction := bits.toNat % fractionSize
  let field : Nat := bits.toNat / fractionSize % 2048
  if field = 0 then ⟨fraction, -1074, false⟩
  else ⟨fractionSize + fraction, (field : Int) - 1075, fraction = 0 && field ≠ 1⟩

/-- The quotient `x · 2^e / 10^k` as numerator and denominator. -/
def ratio (x : Nat) (e k : Int) : Nat × Nat :=
  (x * Nat.pow 2 e.toNat * Nat.pow 10 (-k).toNat, Nat.pow 2 (-e).toNat * Nat.pow 10 k.toNat)

/-- Does `d · 10^k` round to the double? -/
def Binary.holds (b : Binary) (d : Nat) (k : Int) : Bool :=
  let (low, den) := ratio (4 * b.mantissa - if b.narrow then 1 else 2) (b.exponent - 2) k
  let (high, _) := ratio (4 * b.mantissa + 2) (b.exponent - 2) k
  if b.mantissa % 2 = 0 then low ≤ d * den && d * den ≤ high else low < d * den && d * den < high

/-- The largest `p` with `10^p` at most the double. -/
def Binary.magnitude (b : Binary) : Int :=
  let below (p : Int) : Bool := let (n, d) := ratio b.mantissa b.exponent p; d ≤ n
  (((List.range 640).map fun (i : Nat) => (309 : Int) - i).find? below).getD (-324)

/-- The neighbour of the double on the grid of the multiples of `10^k` that rounds to it. -/
def Binary.onGrid? (b : Binary) (k : Int) : Option Scientific :=
  let (n, d) := ratio b.mantissa b.exponent k
  let down := n / d
  let twice := 2 * (n % d)
  let upFirst := d < twice || (twice = d && down % 2 = 1)
  let order := if upFirst then [down + 1, down] else [down, down + 1]
  (order.find? fun x => 0 < x && b.holds x k).map (⟨·, k⟩)

/-- A multiple of ten written with one digit less: a neighbour rounded up to a power of ten. -/
def Scientific.carry (s : Scientific) : Scientific :=
  if s.digits % 10 = 0 then ⟨s.digits / 10, s.exponent + 1⟩ else s

/-- The decimal with the fewest digits that rounds to the double. -/
def Binary.shortest (b : Binary) : Scientific :=
  let p := b.magnitude
  let grids := (List.range 17).map fun (i : Nat) => p - i
  match grids.findSome? b.onGrid? with
  | some s => s.carry
  | none => ⟨b.mantissa, 0⟩

end KeywordDocs.Decimal
