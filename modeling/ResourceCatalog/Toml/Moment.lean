import ResourceCatalog.Toml.Quote
import ResourceCatalog.Time.Timestamp

/-!
# Dates and times in TOML

A moment is a date, a time of day, or both, and then perhaps an offset. A time of day may be without its
seconds. A moment is kept as its normal text: with `T` between date and time, and without zeros at the end
of a fraction.
-/

namespace ResourceCatalog.Toml

/-- A number of exactly that many digits. -/
def scanDigits? (count : Nat) : Scan Nat := fun s =>
  let digits := s.take count
  if digits.length = count ∧ digits.all Char.isDigit then
    some (Text.digitsFrom 0 digits, s.drop count)
  else none

def scanChar? (c : Char) : Scan Unit
  | d :: rest => if d = c then some ((), rest) else none
  | [] => none

/-- A date in its normal text. -/
def scanDate? : Scan (List Char) := fun s => do
  let (year, s) ← scanDigits? 4 s
  let ((), s) ← scanChar? '-' s
  let (month, s) ← scanDigits? 2 s
  let ((), s) ← scanChar? '-' s
  let (day, s) ← scanDigits? 2 s
  let date ← Time.Date.ofParts? year month day
  return (Time.Timestamp.dateText date, s)

/-- The digits of a fraction, the first nine, without zeros at the end. A fraction of zeros keeps one. -/
def fractionText (digits : List Char) : List Char :=
  let kept := ((digits.take 9).reverse.dropWhile (· = '0')).reverse
  '.' :: if kept = [] then ['0'] else kept

/-- A fraction of a second, if there is one. -/
def scanFraction? : Scan (List Char)
  | '.' :: rest =>
    let digits := rest.takeWhile Char.isDigit
    if digits = [] then none else some (fractionText digits, rest.dropWhile Char.isDigit)
  | s => some ([], s)

/-- A number of two digits up to `greatest`, in its own text. -/
def scanPart? (greatest : Nat) : Scan (List Char) := fun s => do
  let (n, rest) ← scanDigits? 2 s
  if n ≤ greatest then return (s.take 2, rest) else none

/-- Seconds with their fraction, if there are any. -/
def scanSeconds? : Scan (List Char)
  | ':' :: rest => do
    let (second, s) ← scanPart? 60 rest
    let (fraction, s) ← scanFraction? s
    return (':' :: second ++ fraction, s)
  | s => some ([], s)

/-- A time of day in its normal text. -/
def scanTime? : Scan (List Char) := fun s => do
  let (hour, s) ← scanPart? 23 s
  let ((), s) ← scanChar? ':' s
  let (minute, s) ← scanPart? 59 s
  let (seconds, s) ← scanSeconds? s
  return (hour ++ ':' :: minute ++ seconds, s)

/-- An offset in its normal text, if there is one. No offset is negative by nothing. -/
def scanOffset? : Scan (List Char)
  | c :: s =>
    if c = 'Z' ∨ c = 'z' then some (['Z'], s)
    else if c = '+' ∨ c = '-' then do
      let (hour, s) ← scanPart? 23 s
      let ((), s) ← scanChar? ':' s
      let (minute, s) ← scanPart? 59 s
      let size := hour ++ ':' :: minute
      return ((if size = "00:00".toList then '+' else c) :: size, s)
    else some ([], c :: s)
  | [] => some ([], [])

/-- What follows the mark between a date and a time. -/
def afterTimeMark? : List Char → Option (List Char)
  | 'T' :: rest | 't' :: rest => some rest
  | ' ' :: d :: rest => if d.isDigit then some (d :: rest) else none
  | _ => none

/-- A moment in its normal text. -/
def scanMoment? : Scan String := fun s =>
  match scanDate? s with
  | some (date, rest) =>
    match afterTimeMark? rest with
    | some rest => do
      let (time, rest) ← scanTime? rest
      let (offset, rest) ← scanOffset? rest
      return (String.ofList (date ++ 'T' :: time ++ offset), rest)
    | none => some (String.ofList date, rest)
  | none => (scanTime? s).map fun (time, rest) => (String.ofList time, rest)

end ResourceCatalog.Toml
