import Mathlib.Algebra.Group.Nat.Defs
import ResourceCatalog.Text.Ascii
import ResourceCatalog.Text.Blank

/-!
# Runs of digits

A run of digits ends where the text behind it does not start with a digit. A digit is no blank, so nothing is
trimmed off the front of a run. Digits spell the number whose digits they are.
-/

namespace ResourceCatalog.Text

/-- A run of digits in front of the text ends there. -/
def EndsDigits (rest : List Char) : Prop := ∀ c ∈ rest.head?, c.isDigit = false

theorem endsDigits_cons {c : Char} (rest : List Char) (h : c.isDigit = false) : EndsDigits (c :: rest) := by
  intro d hd
  cases hd
  exact h

theorem isDigit_of_mem_toDigits {n : Nat} {c : Char} (h : c ∈ Nat.toDigits 10 n) : c.isDigit = true :=
  Nat.isDigit_of_mem_toDigits (by decide) (by decide) h

theorem digitsFrom_eq_ofDigitChars (acc : Nat) (digits : List Char) :
    digitsFrom acc digits = Nat.ofDigitChars 10 digits acc := rfl

theorem takeWhile_append (s : List Char) {rest : List Char} (hrest : EndsDigits rest) :
    (s ++ rest).takeWhile Char.isDigit = s.takeWhile Char.isDigit := by
  induction s with
  | nil =>
    cases rest with
    | nil => rfl
    | cons c rest => exact List.takeWhile_cons_of_neg (by simp [hrest c rfl])
  | cons c s ih =>
    rw [List.cons_append, List.takeWhile_cons, List.takeWhile_cons, ih]

section Run

variable {digits rest : List Char} (hdigits : ∀ c ∈ digits, c.isDigit = true) (hrest : EndsDigits rest)
include hdigits hrest

theorem takeWhile_digits : (digits ++ rest).takeWhile Char.isDigit = digits := by
  rw [List.takeWhile_append_of_pos hdigits, ← List.nil_append rest, takeWhile_append [] hrest]
  exact List.append_nil digits

theorem dropWhile_digits : (digits ++ rest).dropWhile Char.isDigit = rest := by
  rw [List.dropWhile_append_of_pos hdigits]
  cases rest with
  | nil => rfl
  | cons c rest => rw [List.dropWhile_cons_of_neg (by simp [hrest c rfl])]

end Run

/-! ## Blanks -/

theorem trimStart_cons {c : Char} (rest : List Char) (h : isBlank c = false) : trimStart (c :: rest) = c :: rest :=
  List.dropWhile_cons_of_neg (by simp [h])

theorem isBlank_of_isDigit {c : Char} (h : c.isDigit = true) : isBlank c = false := by
  have hrange : 48 ≤ c.toNat ∧ c.toNat ≤ 57 := by
    simpa [Char.isDigit, UInt32.le_iff_toNat_le] using h
  simp only [isBlank, inRanges, blankRanges, List.any_cons, List.any_nil, Bool.or_false, Bool.or_eq_false_iff,
    Bool.and_eq_false_iff, decide_eq_false_iff_not]
  omega

/-! ## Hexadecimal -/

theorem hexValue?_hexDigit : ∀ d < 16, hexValue? (hexDigit d) = some d := by decide

theorem length_hexDigits (count n : Nat) : (hexDigits count n).length = count := by
  induction count generalizing n with
  | zero => rfl
  | succ count ih => rw [hexDigits, List.length_append, ih, List.length_singleton]

theorem exists_of_mem_hexDigits {count n : Nat} {c : Char} (h : c ∈ hexDigits count n) :
    ∃ d < 16, c = hexDigit d := by
  induction count generalizing n with
  | zero => cases h
  | succ count ih =>
    rw [hexDigits, List.mem_append, List.mem_singleton] at h
    rcases h with h | rfl
    · exact ih h
    · exact ⟨n % 16, by omega, rfl⟩

theorem hexNumber?_concat (acc : Nat) (s : List Char) (c : Char) :
    hexNumber? acc (s ++ [c]) = (hexNumber? acc s).bind fun n => (hexValue? c).map (16 * n + ·) := by
  induction s generalizing acc with
  | nil =>
    rw [List.nil_append, hexNumber?, hexNumber?, Option.bind_some]
    cases hexValue? c <;> rfl
  | cons d s ih =>
    rw [List.cons_append, hexNumber?, hexNumber?]
    cases hexValue? d with
    | none => rfl
    | some n => exact ih _

theorem hexNumber?_hexDigits (count n : Nat) : hexNumber? 0 (hexDigits count n) = some (n % 16 ^ count) := by
  induction count generalizing n with
  | zero =>
    rw [Nat.pow_zero, Nat.mod_one]
    rfl
  | succ count ih =>
    rw [hexDigits, hexNumber?_concat, ih, Option.bind_some, hexValue?_hexDigit _ (by omega), Option.map_some,
      Nat.pow_succ', Nat.mod_mul, Nat.add_comm]

end ResourceCatalog.Text
