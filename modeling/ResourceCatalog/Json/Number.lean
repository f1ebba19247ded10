import ResourceCatalog.Decimal.Layout
import ResourceCatalog.Word

/-!
# Numbers in JSON

A number literal is kept as it was written, and read when a value is wanted. A literal without point
and exponent is an integer if it fits 64 bits, signed when negative; every other literal is a
floating-point number. Digits are collected as long as they fit 64 bits and the power of ten is then
applied in one multiplication or division, so the result may differ from the nearest number in its
last bit.
-/

namespace ResourceCatalog.Json

/-- A number literal: its sign, its digits, and the sign and digits of its exponent. -/
structure Numeral where
  negative : Bool
  whole : List Nat
  fraction : List Nat
  exponent : Option (Bool × List Nat)
deriving DecidableEq, Repr

/-- The value of a number literal. -/
inductive Number where
  | natural (n : Nat)
  | negative (n : Int)
  | real (x : Float)

/-- How floating-point numbers are written: positionally from 0.00001 to below 10^16, whole numbers
with `.0`, and otherwise with a signed exponent. -/
def realLayout : Decimal.Layout := ⟨some (-5, 16), ".0", .even⟩

/-- Collects digits while the number stays below 2^64, and gives the digits that are left. -/
def absorb (limit acc : Nat) : List Nat → Nat × List Nat
  | [] => (acc, [])
  | d :: rest => if 10 * acc + d < limit then absorb limit (10 * acc + d) rest else (acc, d :: rest)

/-- The power of ten as a floating-point number. -/
def powerOfTen (n : Nat) : Float := Float.ofScientific 1 false n

/-- Divides by `10 ^ n`, 308 powers at a time. -/
def scaleDown (x : Float) (n : Nat) : Float :=
  if n ≤ 308 then x / powerOfTen n
  else if x == 0 then x
  else scaleDown (x / powerOfTen 308) (n - 308)
termination_by n
decreasing_by omega

/-- `significand * 10 ^ exponent`, or nothing when that is too large. -/
def scaled? (significand : Nat) (exponent : Int) : Option Float :=
  let x := Float.ofScientific significand false 0
  if exponent < 0 then some (scaleDown x exponent.natAbs)
  else if exponent ≤ 308 then
    let y := x * powerOfTen exponent.toNat
    if y.isInf then none else some y
  else if significand = 0 then some x else none

/-- The size of a literal that has a point, an exponent or too many digits. -/
def Numeral.real? (n : Numeral) : Option Float :=
  let (first, long) := absorb Word.size64 0 n.whole
  let (significand, dropped) := absorb Word.size64 first n.fraction
  let shift : Int := (long.length : Int) - ((n.fraction.length : Int) - dropped.length)
  match n.exponent with
  | none => scaled? significand shift
  | some (down, digits) =>
    let (power, rest) := absorb 0x80000000 0 digits
    if rest ≠ [] then if significand ≠ 0 ∧ !down then none else some 0
    else scaled? significand (if down then shift - power else shift + power)

/-- The value of a literal, or nothing when it is too large for a floating-point number. -/
def Numeral.value? (n : Numeral) : Option Number :=
  let (size, long) := absorb Word.size64 0 n.whole
  let signed (x : Float) : Number := .real (if n.negative then -x else x)
  if long = [] ∧ n.fraction = [] ∧ n.exponent = none then
    if !n.negative then some (.natural size)
    else if size = 0 ∨ 0x8000000000000000 < size then some (signed (Float.ofScientific size false 0))
    else some (.negative (-size))
  else n.real?.map signed

end ResourceCatalog.Json
