import ResourceCatalog.Decimal.Nearest
import ResourceCatalog.Toml.Quote
import ResourceCatalog.Word

/-!
# Numbers in TOML

Digits may be grouped by single underscores between them. Whole numbers fit 64 bits and may be written in
hexadecimal, octal or binary digits.
-/

namespace ResourceCatalog.Toml

/-- Takes out the underscores; there is no text for one that is not between two digits. -/
def ungrouped? (isDigit : Char → Bool) : List Char → Option (List Char)
  | [] => none
  | [c] => if isDigit c then some [c] else none
  | c :: '_' :: rest => if isDigit c then (ungrouped? isDigit rest).map (c :: ·) else none
  | c :: rest => if isDigit c then (ungrouped? isDigit rest).map (c :: ·) else none

/-- The number that digits spell in a base. -/
def numberIn? (base : Nat) (s : List Char) : Option Nat := do
  let digits ← ungrouped? (fun c => (Text.hexValue? c).any (· < base)) s
  return digits.foldl (fun n c => base * n + (Text.hexValue? c).getD 0) 0

/-- A number that fits 64 bits with its sign. -/
def bounded? (n : Int) : Option Int := if Word.fitsSigned64 n then some n else none

/-- Decimal digits without zeros in front. -/
def wholeDigits? (s : List Char) : Option (List Char) := do
  let digits ← ungrouped? Char.isDigit s
  if digits.head? = some '0' ∧ 1 < digits.length then none else some digits

/-- The whole number that a text spells. -/
def integer? : List Char → Option Int
  | '0' :: 'x' :: rest => (numberIn? 16 rest).bind fun n => bounded? n
  | '0' :: 'o' :: rest => (numberIn? 8 rest).bind fun n => bounded? n
  | '0' :: 'b' :: rest => (numberIn? 2 rest).bind fun n => bounded? n
  | s => do
    let (negative, rest) := Decimal.splitSign s
    let n := Text.digitsFrom 0 (← wholeDigits? rest)
    bounded? (if negative then -n else n)

/-- The characters up to the first that is one of `marks`, and the rest with it. -/
def splitAtMark (marks : List Char) (s : List Char) : List Char × List Char :=
  (s.takeWhile (· ∉ marks), s.dropWhile (· ∉ marks))

/-- A fraction with its point; empty if there is none. -/
def fraction? : List Char → Option (List Char)
  | [] => some []
  | '.' :: rest => (ungrouped? Char.isDigit rest).map ('.' :: ·)
  | _ => none

/-- An exponent with its mark; empty if there is none. -/
def power? : List Char → Option (List Char)
  | [] => some []
  | _ :: '-' :: rest => (ungrouped? Char.isDigit rest).map fun digits => 'e' :: '-' :: digits
  | _ :: '+' :: rest => (ungrouped? Char.isDigit rest).map ('e' :: ·)
  | _ :: rest => (ungrouped? Char.isDigit rest).map ('e' :: ·)

/-- The number with a point or an exponent that a text spells; numbers beyond the range have no text. -/
def real? (s : List Char) : Option Float := do
  let (negative, size) := Decimal.splitSign s
  let signed (x : Float) : Float := if negative then -x else x
  match String.ofList size with
  | "inf" => some (signed Decimal.infinity)
  | "nan" => some (signed Decimal.notANumber)
  | _ =>
    let (whole, rest) := splitAtMark ['.', 'e', 'E'] size
    let (fraction, power) := splitAtMark ['e', 'E'] rest
    let x ← Decimal.size? ((← wholeDigits? whole) ++ (← fraction? fraction) ++ (← power? power))
    if rest = [] ∨ x.isInf then none else some (signed x)

end ResourceCatalog.Toml
