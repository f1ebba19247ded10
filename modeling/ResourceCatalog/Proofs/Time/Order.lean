import Mathlib.Tactic.IntervalCases
import ResourceCatalog.Proofs.Resource.TotalOrder
import ResourceCatalog.Proofs.Time.Parser

/-!
# Orders of instants

Dates and times compare part by part, from the year down. That is the order of the days counted from a fixed one,
and of the ticks of a clock that gives every second room for a leap second.
-/

namespace ResourceCatalog

/-- A comparison in which the lesser value has the lesser number is that of the numbers. -/
theorem compare_eq_of_lt {α : Type} (cmp : α → α → Ordering) [Std.LawfulEqCmp cmp] [Std.OrientedCmp cmp]
    {number : α → Int} (h : ∀ a b, cmp a b = .lt → number a < number b) (a b : α) :
    cmp a b = compare (number a) (number b) := by
  cases hab : cmp a b with
  | lt => exact (compare_lt_iff_lt.2 (h a b hab)).symm
  | eq =>
    rw [Std.LawfulEqCmp.eq_of_compare hab]
    exact (compare_eq_iff_eq.2 rfl).symm
  | gt => exact (compare_gt_iff_gt.2 (h b a (Std.OrientedCmp.lt_of_gt hab))).symm

namespace Time

/-! ## Days -/

namespace Date

-- Years are counted from March here, like in the number of a day, so that a leap day is the last of its year.

def marchYear (d : Date) : Int := if d.month ≤ 2 then d.year - 1 else d.year

def fromMarch (d : Date) : Int := ((d.month + 9) % 12 : Nat)

def daysBeforeYear (year : Int) : Int := 365 * year + year / 4 - year / 100 + year / 400

def daysBeforeMonth (fromMarch : Int) : Int := (153 * fromMarch + 2) / 5

variable {a b : Date}

theorem dayNumber_eq (d : Date) :
    d.dayNumber = daysBeforeYear d.marchYear + daysBeforeMonth d.fromMarch + (d.day - 730426) := by
  show daysBeforeYear d.marchYear + (daysBeforeMonth d.fromMarch + d.day - 1) - 730425 = _
  omega

theorem fromMarch_mem (d : Date) : 0 ≤ d.fromMarch ∧ d.fromMarch ≤ 11 := by
  unfold fromMarch
  omega

theorem daysBeforeMonth_mono {m n : Int} (h : m ≤ n) : daysBeforeMonth m ≤ daysBeforeMonth n := by
  unfold daysBeforeMonth
  omega

theorem daysBeforeYear_mono {y z : Int} (h : y ≤ z) : daysBeforeYear y ≤ daysBeforeYear z := by
  unfold daysBeforeYear
  omega

/-- The last day of a month comes before the first of the next one. -/
theorem daysBeforeMonth_add_day_le (d : Date) (h : d.fromMarch < 11) :
    daysBeforeMonth d.fromMarch + d.day ≤ daysBeforeMonth (d.fromMarch + 1) := by
  obtain ⟨hpos, hle⟩ := d.month_mem
  have hday := d.day_mem.2
  unfold fromMarch at h ⊢
  unfold daysBeforeMonth
  generalize d.month = month at *
  interval_cases month <;> simp [daysInMonth] at hday h ⊢ <;> omega

/-- The last day of a year comes before the first of the next one. -/
theorem daysBeforeYear_add_day_le (d : Date) :
    daysBeforeYear d.marchYear + daysBeforeMonth d.fromMarch + d.day ≤ daysBeforeYear (d.marchYear + 1) := by
  by_cases h : d.fromMarch < 11
  · have hmonth := d.daysBeforeMonth_add_day_le h
    have hfebruary := daysBeforeMonth_mono (show d.fromMarch + 1 ≤ 11 by omega)
    have hfirst : daysBeforeMonth 11 = 337 := by decide
    unfold daysBeforeYear
    omega
  · -- February, which has a leap day just if the calendar's year, in which it ends, is a leap year.
    have hmonth : d.month = 2 := by
      have := d.month_mem
      unfold fromMarch at h
      omega
    have hday := d.day_mem.2
    rw [hmonth] at hday
    simp only [daysInMonth, isLeapYear, decide_eq_true_eq] at hday
    unfold marchYear fromMarch daysBeforeYear daysBeforeMonth
    rw [hmonth]
    split at hday <;> omega

theorem order_eq_lt_iff : a.order b = .lt ↔
    a.year < b.year ∨ a.year = b.year ∧ (a.month < b.month ∨ a.month = b.month ∧ a.day < b.day) := by
  simp [order, Ordering.then_eq_lt, compare_lt_iff_lt]

/-- Years from March and months from March are in the order of the calendar too. -/
theorem fromMarch_lt_of_order (h : a.order b = .lt) :
    a.marchYear < b.marchYear ∨
      a.marchYear = b.marchYear ∧ (a.fromMarch < b.fromMarch ∨ a.fromMarch = b.fromMarch ∧ a.day < b.day) := by
  have ha := a.month_mem
  have hb := b.month_mem
  rw [order_eq_lt_iff] at h
  unfold marchYear fromMarch
  split <;> split <;> omega

theorem dayNumber_lt_of_order (h : a.order b = .lt) : a.dayNumber < b.dayNumber := by
  have hday := b.day_mem.1
  have hmonth := b.fromMarch_mem
  rw [dayNumber_eq, dayNumber_eq]
  rcases fromMarch_lt_of_order h with hlt | ⟨heq, hlt | ⟨hmeq, hlt⟩⟩
  · have hend := a.daysBeforeYear_add_day_le
    have hnext := daysBeforeYear_mono (show a.marchYear + 1 ≤ b.marchYear by omega)
    have hfirst := daysBeforeMonth_mono hmonth.1
    have hzero : daysBeforeMonth 0 = 0 := by decide
    omega
  · have hend := a.daysBeforeMonth_add_day_le (by omega)
    have hnext := daysBeforeMonth_mono (show a.fromMarch + 1 ≤ b.fromMarch by omega)
    rw [heq]
    omega
  · rw [heq, hmeq]
    omega

end Date

/-! ## Instants -/

namespace Timestamp

/-- Nanoseconds from the start of 2000 on a clock on which every second is followed by a leap second. -/
def ticks (t : Timestamp) : Int :=
  (t.date.dayNumber * 86400 + (t.hour * 3600 + t.minute * 60 + t.second : Nat)) * 2000000000 + t.nano

theorem order_eq_lt_iff {a b : Timestamp} : a.order b = .lt ↔
    a.date.order b.date = .lt ∨ a.date = b.date ∧ (a.hour < b.hour ∨ a.hour = b.hour ∧
      (a.minute < b.minute ∨ a.minute = b.minute ∧ (a.second < b.second ∨ a.second = b.second ∧ a.nano < b.nano))) := by
  simp [order, Ordering.then_eq_lt, Std.LawfulEqCmp.compare_eq_iff_eq, compare_lt_iff_lt]

theorem ticks_lt_of_order {a b : Timestamp} (h : a.order b = .lt) : a.ticks < b.ticks := by
  have hhour := a.hour_lt
  have hminute := a.minute_lt
  have hsecond := a.second_lt
  have hnano := a.nano_lt
  unfold ticks
  rcases order_eq_lt_iff.1 h with hdate | ⟨hdate, hclock⟩
  · have hday := Date.dayNumber_lt_of_order hdate
    omega
  · rw [hdate]
    omega

/-- Earlier instants come first. -/
theorem order_eq_compare_ticks (a b : Timestamp) : a.order b = compare a.ticks b.ticks :=
  compare_eq_of_lt order (fun _ _ => ticks_lt_of_order) a b

end Timestamp

end Time

end ResourceCatalog
