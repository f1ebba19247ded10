/-!
# Shortest decimals

The fewest decimal digits that single out a binary floating-point number. A number stands for every
real that rounds to it; the search walks the decimal grids from coarse to fine and takes the first
grid that has a point among those reals. All arithmetic is exact.
-/

namespace ResourceCatalog.Decimal

/-- The value `digits * 10 ^ exponent`. -/
structure Scaled where
  digits : Nat
  exponent : Int
deriving DecidableEq, Repr

/-- A positive binary number `mantissa * 2 ^ exponent`; the gap below it is half the gap above it when
`narrow` is set. -/
structure Binary where
  mantissa : Nat
  exponent : Int
  narrow : Bool
deriving DecidableEq, Repr

/-- The number with the given 64 bits, its sign left aside. -/
def Binary.ofBits (bits : UInt64) : Binary :=
  let field := ((bits >>> 52) &&& 0x7FF).toNat
  let fraction := (bits &&& 0xFFFFFFFFFFFFF).toNat
  if field = 0 then ⟨fraction, -1074, false⟩
  else ⟨fraction + 0x10000000000000, (field : Int) - 1075, fraction == 0 && field > 1⟩

/-- Which of two equally near decimals is taken. -/
inductive Tie where
  | even
  | upper
deriving DecidableEq, Repr

/-- Orders `a * 10 ^ i` and `b * 2 ^ j`. -/
def compareScaled (a : Nat) (i : Int) (b : Nat) (j : Int) : Ordering :=
  compare (a * Nat.pow 10 i.toNat * Nat.pow 2 (-j).toNat) (b * Nat.pow 2 j.toNat * Nat.pow 10 (-i).toNat)

/-- The reals that round to `x` include the decimal: between the two half-way points, which belong to
`x` when its mantissa is even. -/
def Binary.covers (x : Binary) (d : Scaled) : Bool :=
  let below := compareScaled d.digits d.exponent (if x.narrow then 4 * x.mantissa - 1 else 4 * x.mantissa - 2)
    (x.exponent - 2)
  let above := compareScaled d.digits d.exponent (4 * x.mantissa + 2) (x.exponent - 2)
  let endsCount := x.mantissa % 2 = 0
  (below = .gt ∨ endsCount ∧ below = .eq) ∧ (above = .lt ∨ endsCount ∧ above = .eq)

/-- The greatest multiple of `10 ^ exponent` that is at most `x`, in units of `10 ^ exponent`. -/
def Binary.floorAt (x : Binary) (exponent : Int) : Nat :=
  (x.mantissa * Nat.pow 2 x.exponent.toNat * Nat.pow 10 (-exponent).toNat) /
    (Nat.pow 10 exponent.toNat * Nat.pow 2 (-x.exponent).toNat)

/-- The nearer of `low` and its successor on the grid of `10 ^ exponent`. -/
def Binary.nearer (x : Binary) (tie : Tie) (low : Nat) (exponent : Int) : Nat :=
  match compareScaled (2 * low + 1) exponent (2 * x.mantissa) x.exponent with
  | .gt => low
  | .lt => low + 1
  | .eq =>
    match tie with
    | .upper => low + 1
    | .even => if low % 2 = 0 then low else low + 1

/-- The point of one grid that stands for `x`, if it has one. -/
def Binary.onGrid? (x : Binary) (tie : Tie) (exponent : Int) : Option Scaled :=
  let low := x.floorAt exponent
  match x.covers ⟨low, exponent⟩, x.covers ⟨low + 1, exponent⟩ with
  | true, true => some ⟨x.nearer tie low exponent, exponent⟩
  | true, false => some ⟨low, exponent⟩
  | false, true => some ⟨low + 1, exponent⟩
  | false, false => none

/-- The least `k` between `guess` and `guess + steps` with `x < 10 ^ k`. -/
def Binary.scaleFrom (x : Binary) : Nat → Int → Int
  | 0, guess => guess
  | steps + 1, guess =>
    if compareScaled 1 guess x.mantissa x.exponent = .gt then guess else x.scaleFrom steps (guess + 1)

/-- The number of digits before the point, or minus the number of zeros after it. The guess is
taken from the binary length and lies at most three steps too low. -/
def Binary.scale (x : Binary) : Int :=
  x.scaleFrom 6 (((x.mantissa.log2 : Int) + x.exponent) * 30103 / 100000 - 2)

/-- Moves the zeros at the end of the digits into the exponent. -/
def Scaled.normal (d : Scaled) : Scaled := go 400 d
where
  go : Nat → Scaled → Scaled
    | 0, d => d
    | fuel + 1, d =>
      if d.digits ≠ 0 ∧ d.digits % 10 = 0 then go fuel ⟨d.digits / 10, d.exponent + 1⟩ else d

/-- The exact value, which every search ends in if no grid of seventeen digits has a point. -/
def Binary.exact (x : Binary) : Scaled :=
  ⟨x.mantissa * Nat.pow 2 x.exponent.toNat * Nat.pow 5 (-x.exponent).toNat, -(-x.exponent).toNat⟩

/-- The fewest digits that single out a positive number. -/
def Binary.shortest (x : Binary) (tie : Tie) : Scaled :=
  let top := x.scale
  let found := (List.range 17).findSome? fun (n : Nat) => x.onGrid? tie (top - (n + 1))
  (found.getD x.exact).normal

end ResourceCatalog.Decimal
