/-!
# Characters of ASCII

The classes that several syntaxes share, the numbers that decimal and hexadecimal digits spell, and the
hexadecimal digits of a number.
-/

namespace ResourceCatalog.Text

/-- A space or a tab, the blanks within a line. -/
def isSpaceOrTab (c : Char) : Bool := c = ' ' || c = '\t'

/-- Characters of names that stand without quotes. -/
def isNameChar (c : Char) : Bool := c.isAlphanum || c = '_' || c = '-'

/-! ## Decimal -/

/-- The value of a decimal digit. -/
def digitValue (c : Char) : Nat := c.toNat - '0'.toNat

/-- The number that decimal digits spell behind `acc`. -/
def digitsFrom (acc : Nat) (digits : List Char) : Nat := digits.foldl (fun n c => 10 * n + digitValue c) acc

/-! ## Hexadecimal -/

/-- The hexadecimal digit of a number below 16. -/
def hexDigit (n : Nat) : Char :=
  if n < 10 then Char.ofNat ('0'.toNat + n) else Char.ofNat ('a'.toNat + (n - 10))

/-- The value of a hexadecimal digit in either case. -/
def hexValue? (c : Char) : Option Nat :=
  if '0' ≤ c ∧ c ≤ '9' then some (digitValue c)
  else if 'a' ≤ c ∧ c ≤ 'f' then some (c.toNat - 'a'.toNat + 10)
  else if 'A' ≤ c ∧ c ≤ 'F' then some (c.toNat - 'A'.toNat + 10)
  else none

/-- The last `count` hexadecimal digits of a number, most significant first. -/
def hexDigits : Nat → Nat → List Char
  | 0, _ => []
  | count + 1, n => hexDigits count (n / 16) ++ [hexDigit (n % 16)]

/-- Extends `acc` by a digit at a time; `none` at the first character that is no digit. -/
def hexNumber? (acc : Nat) : List Char → Option Nat
  | [] => some acc
  | c :: rest => (hexValue? c).bind fun d => hexNumber? (16 * acc + d) rest

end ResourceCatalog.Text
