import ResourceCatalog.Json.Value
import ResourceCatalog.Proofs.Text.Digits

/-!
# Written whole numbers

The digits that a whole number is written with are one number literal, whatever follows them that does not
go on with a literal, and the value of the literal is the number.
-/

namespace ResourceCatalog.Json

open Text (digitValue)

/-- What follows does not go on with a number literal. -/
def EndsNumber (rest : List Char) : Prop :=
  ∀ c ∈ rest.head?, c.isDigit = false ∧ c ≠ '.' ∧ c ≠ 'e' ∧ c ≠ 'E'

theorem endsNumber_nil : EndsNumber [] := by
  intro c hc
  cases hc

theorem endsNumber_cons {c : Char} (rest : List Char)
    (h : c.isDigit = false ∧ c ≠ '.' ∧ c ≠ 'e' ∧ c ≠ 'E') : EndsNumber (c :: rest) := by
  intro d hd
  cases hd
  exact h

/-- The literal that a whole number is written as. -/
def Numeral.ofInt (n : Int) : Numeral :=
  ⟨n < 0, (Nat.toDigits 10 n.natAbs).map digitValue, [], none⟩

/-! ## Scanning -/

theorem spanDigits_append {digits rest : List Char} (hdigits : ∀ c ∈ digits, c.isDigit = true)
    (hrest : Text.EndsDigits rest) : spanDigits (digits ++ rest) = (digits.map digitValue, rest) := by
  rw [spanDigits, Text.takeWhile_digits hdigits hrest, Text.dropWhile_digits hdigits hrest]

/-- Only zero is written with a zero in front. -/
theorem head?_toDigits_ne_zero {n : Nat} (h : 0 < n) :
    ((Nat.toDigits 10 n).map digitValue).head? ≠ some 0 := by
  induction n using Nat.strongRecOn with
  | _ n ih =>
    by_cases hn : n < 10
    · have hvalue : digitValue n.digitChar = n := Nat.toNat_digitChar_sub_48_of_lt_ten hn
      rw [Nat.toDigits_of_lt_base hn, List.map_singleton, hvalue, List.head?_singleton, ne_eq, Option.some.injEq]
      omega
    · -- The last digit is put behind those of `n / 10`, which keeps the first one.
      have hfront := ih (n / 10) (by omega) (by omega)
      have hne : (Nat.toDigits 10 (n / 10)).map digitValue ≠ [] := by simp
      rw [Nat.toDigits_of_base_le (by decide) (by omega), List.map_append]
      rw [List.head?_eq_some_head hne] at hfront
      rw [List.head?_append, List.head?_eq_some_head hne]
      exact hfront

theorem scanWhole?_toDigits (n : Nat) {rest : List Char} (hrest : EndsNumber rest) :
    scanWhole? (Nat.toDigits 10 n ++ rest) = some ((Nat.toDigits 10 n).map digitValue, rest) := by
  have hspan := spanDigits_append (fun c => Text.isDigit_of_mem_toDigits (n := n)) fun c hc => (hrest c hc).1
  have hne : (Nat.toDigits 10 n).map digitValue ≠ [] := by simp
  have hzero : ¬(((Nat.toDigits 10 n).map digitValue).head? = some 0 ∧
      1 < ((Nat.toDigits 10 n).map digitValue).length) := by
    rintro ⟨hhead, hlong⟩
    by_cases hn : n = 0
    · rw [hn] at hlong
      simp at hlong
    · exact head?_toDigits_ne_zero (by omega) hhead
  rw [scanWhole?, hspan]
  exact if_neg (not_or.2 ⟨hne, hzero⟩)

theorem scanFraction?_of_endsNumber {rest : List Char} (hrest : EndsNumber rest) :
    scanFraction? rest = some ([], rest) := by
  unfold scanFraction?
  split
  · exact absurd rfl (hrest '.' rfl).2.1
  · rfl

theorem scanExponent?_of_endsNumber {rest : List Char} (hrest : EndsNumber rest) :
    scanExponent? rest = some (none, rest) := by
  cases rest with
  | nil => rfl
  | cons c rest =>
    obtain ⟨-, -, he, hE⟩ := hrest c rfl
    exact if_neg (not_or.2 ⟨he, hE⟩)

theorem scanSize?_toDigits (negative : Bool) (n : Nat) {rest : List Char} (hrest : EndsNumber rest) :
    scanSize? negative (Nat.toDigits 10 n ++ rest) =
      some (⟨negative, (Nat.toDigits 10 n).map digitValue, [], none⟩, rest) := by
  simp only [scanSize?, scanWhole?_toDigits n hrest, scanFraction?_of_endsNumber hrest,
    scanExponent?_of_endsNumber hrest, bind, Option.bind, pure]

theorem scanNumber?_integerChars (n : Int) {rest : List Char} (hrest : EndsNumber rest) :
    scanNumber? (integerChars n ++ rest) = some (.ofInt n, rest) := by
  by_cases hn : n < 0
  · rw [integerChars, if_pos hn, List.cons_append]
    show scanSize? true _ = _
    rw [scanSize?_toDigits true _ hrest, Numeral.ofInt, decide_eq_true hn]
  · -- Without a sign the text starts with a digit, so the first case of the scanner is out.
    have hdigit : ∀ c s, Nat.toDigits 10 n.natAbs ++ rest = c :: s → c ≠ '-' := by
      intro c s h hc
      have hmem : c ∈ Nat.toDigits 10 n.natAbs := by
        cases hd : Nat.toDigits 10 n.natAbs with
        | nil => exact absurd hd Nat.toDigits_ne_nil
        | cons d ds =>
          rw [hd, List.cons_append] at h
          cases h
          exact List.mem_cons_self
      have := Text.isDigit_of_mem_toDigits hmem
      rw [hc] at this
      exact absurd this (by decide)
    rw [integerChars, if_neg hn, Numeral.ofInt, decide_eq_false hn, ← scanSize?_toDigits false _ hrest]
    unfold scanNumber?
    split
    · rename_i h
      exact absurd rfl (hdigit _ _ h)
    · rfl

/-! ## The value -/

theorem ofDigitChars_ge (cs : List Char) (acc : Nat) : acc ≤ Nat.ofDigitChars 10 cs acc := by
  induction cs generalizing acc with
  | nil => exact Nat.le_of_eq Nat.ofDigitChars_nil.symm
  | cons c cs ih =>
    rw [Nat.ofDigitChars_cons]
    have := ih (10 * acc + (c.toNat - '0'.toNat))
    omega

theorem absorb_eq (limit : Nat) (cs : List Char) (acc : Nat) (h : Nat.ofDigitChars 10 cs acc < limit) :
    absorb limit acc (cs.map digitValue) = (Nat.ofDigitChars 10 cs acc, []) := by
  induction cs generalizing acc with
  | nil => rw [Nat.ofDigitChars_nil]; rfl
  | cons c cs ih =>
    rw [Nat.ofDigitChars_cons] at h ⊢
    -- Every number on the way is at most the last one, so the limit is not met earlier.
    have hlt := Nat.lt_of_le_of_lt (ofDigitChars_ge cs _) h
    rw [List.map_cons, absorb]
    exact (if_pos hlt).trans (ih _ h)

theorem value?_ofInt {n : Nat} (h : n < Word.size64) : (Numeral.ofInt n).value? = some (.natural n) := by
  have hsize : absorb Word.size64 0 (Numeral.ofInt n).whole = (n, []) := by
    show absorb Word.size64 0 ((Nat.toDigits 10 n).map digitValue) = (n, [])
    rw [absorb_eq _ _ _ (by rwa [Nat.ofDigitChars_ten_toDigits]), Nat.ofDigitChars_ten_toDigits]
  have hsign : (Numeral.ofInt n).negative = false := decide_eq_false (Int.not_lt.2 (Int.natCast_nonneg n))
  rw [Numeral.value?, hsize, hsign]
  rfl

end ResourceCatalog.Json
