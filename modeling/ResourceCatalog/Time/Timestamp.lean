import ResourceCatalog.Time.Date

/-!
# Timestamps

Instants in universal time to the nanosecond. Any second may have a leap second behind it, which counts on its
nanoseconds and lies before the next second. Texts show it as the second after, and as second 60 at the end of a
minute, so only there does a text tell it from a second of its own.
-/

namespace ResourceCatalog.Time

structure Timestamp where
  date : Date
  hour : Nat
  minute : Nat
  second : Nat
  /-- From the start of the second; in the leap second behind it from one billion on. -/
  nano : Nat
  hour_lt : hour < 24
  minute_lt : minute < 60
  second_lt : second < 60
  nano_lt : nano < 2000000000
deriving DecidableEq, Repr

namespace Timestamp

/-- Earlier instants come first. -/
def order (a b : Timestamp) : Ordering :=
  (a.date.order b.date).then ((compare a.hour b.hour).then ((compare a.minute b.minute).then
    ((compare a.second b.second).then (compare a.nano b.nano))))

/-- The instant on a day, if its parts are in range. -/
def ofParts? (date : Date) (hour minute second nano : Nat) : Option Timestamp :=
  if h : hour < 24 ∧ minute < 60 ∧ second < 60 ∧ nano < 2000000000 then
    some ⟨date, hour, minute, second, nano, h.1, h.2.1, h.2.2.1, h.2.2.2⟩
  else none

/-- The instant that a clock shows on a day. Second 60 is the leap second behind second 59. -/
def ofClock? (date : Date) (hour minute second nano : Nat) : Option Timestamp :=
  if second = 60 then ofParts? date hour minute 59 (1000000000 + nano)
  else ofParts? date hour minute second nano

/-- The nanoseconds from the start of 2000. A leap second counts as the second after it. -/
def nanosFrom2000 (t : Timestamp) : Int :=
  (t.date.dayNumber * 86400 + (t.hour * 3600 + t.minute * 60 + t.second : Nat)) * 1000000000 + t.nano

/-- The microseconds from the start of 2000, a part of one dropped. -/
def microsFrom2000 (t : Timestamp) : Int := t.nanosFrom2000.tdiv 1000

/-- The instant that many microseconds from the start of 2000, if the calendar has it. -/
def ofMicrosFrom2000? (n : Int) : Option Timestamp := do
  let date ← Date.ofDayNumber? (n / 86400000000)
  let ofDay := (n % 86400000000).toNat
  ofParts? date (ofDay / 3600000000) (ofDay / 60000000 % 60) (ofDay / 1000000 % 60) (ofDay % 1000000 * 1000)

/-- The instant that many minutes earlier, seconds kept, if the calendar has it. -/
def earlier? (t : Timestamp) (minutes : Int) : Option Timestamp :=
  if minutes = 0 then some t
  else do
    let n := t.date.dayNumber * 1440 + (t.hour * 60 + t.minute : Nat) - minutes
    let date ← Date.ofDayNumber? (n / 1440)
    let ofDay := (n % 1440).toNat
    ofParts? date (ofDay / 60) (ofDay % 60) t.second t.nano

/-- The instant with the part below a microsecond dropped. -/
def truncated (t : Timestamp) : Timestamp :=
  { t with nano := t.nano / 1000 * 1000, nano_lt := by have := t.nano_lt; omega }

/-! ## Texts -/

/-- Decimal digits, filled up with zeros to the given width. -/
def padded (width n : Nat) : List Char :=
  let ds := Nat.toDigits 10 n
  List.replicate (width - ds.length) '0' ++ ds

/-- Four digits, with a sign outside the years 0 to 9999. -/
def yearText (year : Int) : List Char :=
  if 0 ≤ year ∧ year ≤ 9999 then padded 4 year.toNat
  else (if year < 0 then '-' else '+') :: padded 4 year.natAbs

/-- The fraction of a second with three, six or nine digits, the fewest that are exact, or none. -/
def fractionText (nano : Nat) : List Char :=
  if nano = 0 then []
  else if nano % 1000000 = 0 then '.' :: padded 3 (nano / 1000000)
  else if nano % 1000 = 0 then '.' :: padded 6 (nano / 1000)
  else '.' :: padded 9 nano

def dateText (d : Date) : List Char :=
  yearText d.year ++ '-' :: padded 2 d.month ++ '-' :: padded 2 d.day

/-- The time of day to the second; a leap second is shown as the second after. -/
def clockText (t : Timestamp) : List Char :=
  padded 2 t.hour ++ ':' :: padded 2 t.minute ++ ':' :: padded 2 (t.second + t.nano / 1000000000)

/-- Date and time with `T` between them, without a zone. -/
def localChars (t : Timestamp) : List Char :=
  dateText t.date ++ 'T' :: clockText t ++ fractionText (t.nano % 1000000000)

/-- The text with the zone `Z`. -/
def text (t : Timestamp) : String := String.ofList (t.localChars ++ ['Z'])

/-- The text with the zone `+00:00`. -/
def textWithOffset (t : Timestamp) : String := String.ofList (t.localChars ++ "+00:00".toList)

/-- Date and time to the second with a blank between them. -/
def shortText (t : Timestamp) : String := String.ofList (dateText t.date ++ ' ' :: clockText t)

end Timestamp

end ResourceCatalog.Time
