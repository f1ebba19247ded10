import ResourceCatalog.Text.Ascii
import ResourceCatalog.Text.Blank
import ResourceCatalog.Time.Timestamp
import ResourceCatalog.Word

/-!
# Reading timestamps

A lenient form of the internet date and time format: numbers need no padding, blanks may stand before
numbers, hyphens, colons and the zone, a blank may stand for the `T`, and the zone may be `Z`, `UTC`
or an offset. The text is read from left to right; whether the date exists is asked at the end.
-/

namespace ResourceCatalog.Time

/-- Why a text is no timestamp. -/
inductive Malformed where
  | invalid
  | tooShort
  | outOfRange
  | impossible
  | tooLong
deriving DecidableEq, Repr

def Malformed.message : Malformed → String
  | .invalid => "input contains invalid characters"
  | .tooShort => "premature end of input"
  | .outOfRange => "input is out of range"
  | .impossible => "no possible date and time matching input"
  | .tooLong => "trailing input"

/-- Reads something off the front of a text. -/
abbrev Scan (α : Type) := List Char → Except Malformed (α × List Char)

/-- The length of the longest front of digits, `most` at most. -/
def digitCount (most : Option Nat) (s : List Char) : Nat :=
  let n := (s.takeWhile Char.isDigit).length
  most.elim n (min n)

/-- Reads a number of at least one digit, and of `most` digits if that is given. -/
def scanNumber (most : Option Nat) : Scan Nat := fun s =>
  let n := digitCount most s
  let value := Text.digitsFrom 0 (s.take n)
  if s = [] then .error .tooShort
  else if n = 0 then .error .invalid
  else if Word.bound64 ≤ value then .error .outOfRange
  else .ok (value, s.drop n)

/-- Reads a number of one or two digits behind blanks and checks its range. -/
def scanPart (least greatest : Nat) : Scan Nat := fun s => do
  let (n, rest) ← scanNumber (some 2) (Text.trimStart s)
  if least ≤ n ∧ n ≤ greatest then .ok (n, rest) else .error .outOfRange

/-- Reads a mark behind blanks. -/
def scanMark (mark : Char) : Scan Unit := fun s =>
  match Text.trimStart s with
  | [] => .error .tooShort
  | c :: rest => if c = mark then .ok ((), rest) else .error .invalid

/-- A year of up to four digits, or of any number of digits behind a sign. -/
def scanSignedYear : Scan Int
  | '-' :: rest => do
    let (n, rest) ← scanNumber none rest
    .ok (-n, rest)
  | '+' :: rest => do
    let (n, rest) ← scanNumber none rest
    .ok (n, rest)
  | s => do
    let (n, rest) ← scanNumber (some 4) s
    .ok (n, rest)

def scanYear : Scan Int := fun s => do
  let (year, rest) ← scanSignedYear (Text.trimStart s)
  if Word.fitsSigned32 year then .ok (year, rest) else .error .outOfRange

/-- The fraction of a second in nanoseconds. Digits after the ninth are dropped. -/
def scanFraction : Scan Nat
  | '.' :: rest => do
    let n := digitCount (some 9) rest
    let (value, rest) ← scanNumber (some 9) rest
    .ok (value * Nat.pow 10 (9 - n), rest.dropWhile Char.isDigit)
  | s => .ok (0, s)

/-- Two digits, of which the first is at most `tens`. -/
def scanPair (tens : Nat) : Scan Nat
  | a :: b :: rest =>
    if a.isDigit ∧ b.isDigit then
      if Text.digitValue a ≤ tens then .ok (Text.digitsFrom 0 [a, b], rest) else .error .outOfRange
    else .error .invalid
  | [a] => if a.toNat < 128 then .error .tooShort else .error .invalid
  | [] => .error .tooShort

/-- The hours and minutes of an offset, in minutes. Blanks and colons may stand between them. -/
def scanOffset : Scan Nat := fun s => do
  let (hours, s) ← scanPair 9 s
  let (minutes, s) ← scanPair 5 (s.dropWhile fun c => c = ':' || Text.isBlank c)
  .ok (60 * hours + minutes, s)

/-- The zone as minutes that local time is ahead of universal time. -/
def scanZone : Scan Int
  | [] => .error .tooShort
  | c :: rest =>
    if ((c :: rest).take 3).map Char.toUpper = ['U', 'T', 'C'] then .ok (0, (c :: rest).drop 3)
    else if c = 'Z' ∨ c = 'z' then .ok (0, rest)
    else if c = '+' then do
      let (n, rest) ← scanOffset rest
      .ok (n, rest)
    else if c = '-' ∨ c = '−' then do
      let (n, rest) ← scanOffset rest
      .ok (-n, rest)
    else .error .invalid

/-- The mark between date and time. -/
def scanSeparator : Scan Unit
  | [] => .error .tooShort
  | c :: rest => if c = 'T' ∨ c = 't' ∨ c = ' ' then .ok ((), rest) else .error .invalid

/-- Reads a timestamp. -/
def Timestamp.parse (s : List Char) : Except Malformed Timestamp := do
  let (year, s) ← scanYear s
  let ((), s) ← scanMark '-' s
  let (month, s) ← scanPart 1 12 s
  let ((), s) ← scanMark '-' s
  let (day, s) ← scanPart 1 31 s
  let ((), s) ← scanSeparator s
  let (hour, s) ← scanPart 0 23 s
  let ((), s) ← scanMark ':' s
  let (minute, s) ← scanPart 0 59 s
  let ((), s) ← scanMark ':' s
  let (second, s) ← scanPart 0 60 s
  let (nano, s) ← scanFraction s
  let (ahead, s) ← scanZone (Text.trimStart s)
  if Text.trimStart s ≠ [] then throw .tooLong
  let some date := Date.ofParts? year month day | throw .outOfRange
  let some moment := Timestamp.ofClock? date hour minute second nano | throw .outOfRange
  if 1440 ≤ ahead.natAbs then throw .outOfRange
  let some moment := moment.earlier? ahead | throw .impossible
  return moment

end ResourceCatalog.Time
