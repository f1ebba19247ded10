import ResourceCatalog.Text.Ascii

/-!
# Reading decimals

The floating-point number nearest to a decimal. A text may have a sign, a point anywhere among its digits
and an exponent; infinity and the value that is no number have names.
-/

namespace ResourceCatalog.Decimal

def infinity : Float := 1.0 / 0.0

def notANumber : Float := 0.0 / 0.0

/-- The number nearest to `digits * 10 ^ exponent`. Sizes beyond the range are decided by the place of the
leading digit. -/
def nearest (digits : Nat) (exponent : Int) : Float :=
  let lead := ((Nat.toDigits 10 digits).length : Int) + exponent
  if digits = 0 ∨ lead < -400 then 0.0
  else if 400 < lead then infinity
  else Float.ofScientific digits (exponent < 0) exponent.natAbs

/-- The number that a text of at least one digit and nothing else spells. -/
def natural? (s : List Char) : Option Nat :=
  if s ≠ [] ∧ s.all Char.isDigit then some (Text.digitsFrom 0 s) else none

/-- Takes a sign off the front and tells whether it is a minus. -/
def splitSign : List Char → Bool × List Char
  | '-' :: rest => (true, rest)
  | '+' :: rest => (false, rest)
  | s => (false, s)

/-- The whole number that a text spells, with or without a sign. -/
def integer? (s : List Char) : Option Int :=
  let (negative, rest) := splitSign s
  (natural? rest).map fun n => if negative then -n else n

/-- The exponent behind the digits, zero if there is none. -/
def exponent? : List Char → Option Int
  | [] => some 0
  | c :: rest => if c = 'e' ∨ c = 'E' then integer? rest else none

/-- The size of a number that is written in digits. -/
def size? (s : List Char) : Option Float := do
  let whole := s.takeWhile Char.isDigit
  let rest := s.dropWhile Char.isDigit
  let (fraction, rest) := match rest with
    | '.' :: rest => (rest.takeWhile Char.isDigit, rest.dropWhile Char.isDigit)
    | rest => ([], rest)
  let exponent ← exponent? rest
  if whole = [] ∧ fraction = [] then none
  else some (nearest (Text.digitsFrom (Text.digitsFrom 0 whole) fraction) (exponent - fraction.length))

/-- The number that a text spells. -/
def real? (s : List Char) : Option Float :=
  let (negative, rest) := splitSign s
  let size := match String.ofList (rest.map Char.toLower) with
    | "inf" | "infinity" => some infinity
    | "nan" => some notANumber
    | _ => size? rest
  size.map fun x => if negative then -x else x

end ResourceCatalog.Decimal
