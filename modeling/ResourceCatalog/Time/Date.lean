/-!
# Dates

Days of the Gregorian calendar, carried back without end, in the years -262143 to 262142.
-/

namespace ResourceCatalog.Time

def isLeapYear (year : Int) : Bool := year % 4 = 0 ∧ (year % 100 ≠ 0 ∨ year % 400 = 0)

/-- The length of a month, or zero if there is no such month. -/
def daysInMonth (year : Int) : Nat → Nat
  | 2 => if isLeapYear year then 29 else 28
  | 4 | 6 | 9 | 11 => 30
  | 1 | 3 | 5 | 7 | 8 | 10 | 12 => 31
  | _ => 0

def leastYear : Int := -262143

def greatestYear : Int := 262142

/-- A day of the calendar. -/
structure Date where
  year : Int
  month : Nat
  day : Nat
  year_mem : leastYear ≤ year ∧ year ≤ greatestYear
  day_mem : 1 ≤ day ∧ day ≤ daysInMonth year month
deriving DecidableEq, Repr

namespace Date

/-- The day with the given number, month and year, if there is one. -/
def ofParts? (year : Int) (month day : Nat) : Option Date :=
  if h : (leastYear ≤ year ∧ year ≤ greatestYear) ∧ 1 ≤ day ∧ day ≤ daysInMonth year month then
    some ⟨year, month, day, h.1, h.2⟩
  else none

def order (a b : Date) : Ordering :=
  (compare a.year b.year).then ((compare a.month b.month).then (compare a.day b.day))

/-- The number of days from 1 January 2000. Years are counted from March, so that a leap day ends its year. -/
def dayNumber (d : Date) : Int :=
  let year := if d.month ≤ 2 then d.year - 1 else d.year
  let fromMarch := (d.month + 9) % 12
  let dayOfYear : Int := (153 * fromMarch + 2) / 5 + d.day - 1
  365 * year + year / 4 - year / 100 + year / 400 + dayOfYear - 730425

/-- The day with the given number, if its year is one of the calendar's. -/
def ofDayNumber? (n : Int) : Option Date :=
  let shifted := n + 730425
  let era := shifted / 146097
  let dayOfEra := shifted % 146097
  let yearOfEra := (dayOfEra - dayOfEra / 1460 + dayOfEra / 36524 - dayOfEra / 146096) / 365
  let dayOfYear := dayOfEra - (365 * yearOfEra + yearOfEra / 4 - yearOfEra / 100)
  let fromMarch := (5 * dayOfYear + 2) / 153
  let day := dayOfYear - (153 * fromMarch + 2) / 5 + 1
  let month := if fromMarch < 10 then fromMarch + 3 else fromMarch - 9
  let year := yearOfEra + 400 * era + (if month ≤ 2 then 1 else 0)
  ofParts? year month.toNat day.toNat

end Date

end ResourceCatalog.Time
