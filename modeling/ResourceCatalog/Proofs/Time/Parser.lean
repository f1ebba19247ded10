import Mathlib.Algebra.Group.Nat.Defs
import ResourceCatalog.Proofs.Text.Digits
import ResourceCatalog.Time.Parser

/-!
# Reading back timestamps

Each part of a timestamp's text is read by its scanner, which stops at the next part, and the parts make the instant
that the text shows: years of any length, every fraction of a second and leap seconds at the end of a minute included.
A leap second behind another second is read as the second after, which the text shows too.
-/

namespace ResourceCatalog.Time

open Text (EndsDigits endsDigits_cons isBlank_of_isDigit trimStart trimStart_cons)
open Timestamp (padded)

/-! ## Padded numbers -/

theorem isDigit_of_mem_padded {width n : Nat} {c : Char} (h : c ∈ padded width n) : c.isDigit = true := by
  rw [padded, List.mem_append, List.mem_replicate] at h
  rcases h with ⟨-, rfl⟩ | h
  · rfl
  · exact Text.isDigit_of_mem_toDigits h

theorem digitsFrom_padded (width n : Nat) : Text.digitsFrom 0 (padded width n) = n := by
  rw [Text.digitsFrom_eq_ofDigitChars, padded, Nat.ofDigitChars_append, Nat.ofDigitChars_replicate_zero,
    Nat.mul_zero, Nat.ofDigitChars_ten_toDigits]

theorem length_padded {width n : Nat} (hwidth : 0 < width) (hn : n < 10 ^ width) :
    (padded width n).length = width := by
  have hle : (Nat.toDigits 10 n).length ≤ width := (Nat.length_toDigits_le_iff (by decide) hwidth).2 hn
  rw [padded, List.length_append, List.length_replicate]
  omega

theorem length_padded_le {width n : Nat} (hwidth : 0 < width) (hn : n < 10 ^ width) :
    ∀ m ∈ some width, (padded width n).length ≤ m := by
  rintro m ⟨⟩
  exact Nat.le_of_eq (length_padded hwidth hn)

theorem padded_eq_cons (width n : Nat) : ∃ c s, padded width n = c :: s ∧ c.isDigit = true := by
  cases h : padded width n with
  | nil =>
    rw [padded, List.append_eq_nil_iff] at h
    exact absurd h.2 Nat.toDigits_ne_nil
  | cons c s => exact ⟨c, s, rfl, isDigit_of_mem_padded (h ▸ List.mem_cons_self)⟩

theorem trimStart_padded (width n : Nat) (rest : List Char) :
    trimStart (padded width n ++ rest) = padded width n ++ rest := by
  obtain ⟨c, s, hs, hc⟩ := padded_eq_cons width n
  rw [hs, List.cons_append, trimStart_cons _ (isBlank_of_isDigit hc)]

/-! ## Numbers -/

theorem digitCount_append {most : Option Nat} {digits rest : List Char}
    (hdigits : ∀ c ∈ digits, c.isDigit = true) (hrest : EndsDigits rest)
    (hmost : ∀ m ∈ most, digits.length ≤ m) : digitCount most (digits ++ rest) = digits.length := by
  rw [digitCount, Text.takeWhile_digits hdigits hrest]
  cases most with
  | none => rfl
  | some m => exact Nat.min_eq_left (hmost m rfl)

theorem scanNumber_padded {most : Option Nat} {width n : Nat} {rest : List Char} (hrest : EndsDigits rest)
    (hmost : ∀ m ∈ most, (padded width n).length ≤ m) (hn : n < 2 ^ 63) :
    scanNumber most (padded width n ++ rest) = .ok (n, rest) := by
  obtain ⟨c, s, hs, -⟩ := padded_eq_cons width n
  have hcount := digitCount_append (fun c => isDigit_of_mem_padded) hrest hmost
  have hfits : ¬Word.bound64 ≤ (n : Int) := by
    unfold Word.bound64
    omega
  simp only [scanNumber, hcount, List.take_left, List.drop_left, digitsFrom_padded]
  rw [if_neg (by simp [hs]), if_neg (by simp [hs]), if_neg hfits]

theorem scanPart_padded {least greatest n : Nat} {rest : List Char} (hrest : EndsDigits rest)
    (hn : least ≤ n ∧ n ≤ greatest) (hgreatest : greatest < 100) :
    scanPart least greatest (padded 2 n ++ rest) = .ok (n, rest) := by
  have hlength : ∀ m ∈ some 2, (padded 2 n).length ≤ m := length_padded_le (by decide) (by omega)
  rw [scanPart, trimStart_padded, scanNumber_padded hrest hlength (by omega)]
  exact if_pos hn

theorem scanMark_cons {mark : Char} (rest : List Char) (h : Text.isBlank mark = false) :
    scanMark mark (mark :: rest) = .ok ((), rest) := by
  rw [scanMark, trimStart_cons rest h]
  exact if_pos rfl

/-! ## Years -/

theorem scanSignedYear_of_isDigit {c : Char} (h : c.isDigit = true) (s : List Char) :
    scanSignedYear (c :: s) = (scanNumber (some 4) (c :: s)).map fun (n, rest) => ((n : Int), rest) := by
  unfold scanSignedYear
  split
  · rename_i heq
    cases heq
    exact absurd h (by decide)
  · rename_i heq
    cases heq
    exact absurd h (by decide)
  · cases scanNumber (some 4) (c :: s) <;> rfl

theorem scanSignedYear_yearText {year : Int} {rest : List Char} (hrest : EndsDigits rest)
    (hyear : leastYear ≤ year ∧ year ≤ greatestYear) :
    scanSignedYear (Timestamp.yearText year ++ rest) = .ok (year, rest) := by
  unfold leastYear greatestYear at hyear
  by_cases hplain : 0 ≤ year ∧ year ≤ 9999
  · -- Without a sign there are exactly four digits.
    obtain ⟨c, s, hs, hc⟩ := padded_eq_cons 4 year.toNat
    have hlength : ∀ m ∈ some 4, (padded 4 year.toNat).length ≤ m := length_padded_le (by decide) (by omega)
    have hscan := scanNumber_padded hrest hlength (by omega)
    rw [Timestamp.yearText, if_pos hplain]
    rw [hs, List.cons_append] at hscan ⊢
    rw [scanSignedYear_of_isDigit hc, hscan]
    show Except.ok ((year.toNat : Int), rest) = _
    rw [Int.toNat_of_nonneg hplain.1]
  · -- Behind a sign there may be any number of digits.
    have hscan : scanNumber none (padded 4 year.natAbs ++ rest) = .ok (year.natAbs, rest) :=
      scanNumber_padded hrest (by intro m hm; cases hm) (by omega)
    rw [Timestamp.yearText, if_neg hplain]
    by_cases hneg : year < 0
    · rw [if_pos hneg, List.cons_append, scanSignedYear, hscan]
      show Except.ok (-(year.natAbs : Int), rest) = _
      rw [Int.ofNat_natAbs_of_nonpos (by omega), Int.neg_neg]
    · rw [if_neg hneg, List.cons_append, scanSignedYear, hscan]
      show Except.ok ((year.natAbs : Int), rest) = _
      rw [Int.natAbs_of_nonneg (by omega)]

theorem trimStart_yearText (year : Int) (rest : List Char) :
    trimStart (Timestamp.yearText year ++ rest) = Timestamp.yearText year ++ rest := by
  rw [Timestamp.yearText]
  split
  · exact trimStart_padded 4 _ rest
  · split
    · exact trimStart_cons _ (by decide)
    · exact trimStart_cons _ (by decide)

theorem scanYear_yearText {year : Int} {rest : List Char} (hrest : EndsDigits rest)
    (hyear : leastYear ≤ year ∧ year ≤ greatestYear) :
    scanYear (Timestamp.yearText year ++ rest) = .ok (year, rest) := by
  have hfits : Word.fitsSigned32 year = true := by
    unfold leastYear greatestYear at hyear
    rw [Word.fitsSigned32, decide_eq_true_iff]
    omega
  rw [scanYear, trimStart_yearText, scanSignedYear_yearText hrest hyear]
  exact if_pos hfits

/-! ## Fractions -/

theorem scanFraction_padded {width n : Nat} {rest : List Char} (hrest : EndsDigits rest)
    (hwidth : 0 < width ∧ width ≤ 9) (hn : n < 10 ^ width) :
    scanFraction ('.' :: padded width n ++ rest) = .ok (n * Nat.pow 10 (9 - width), rest) := by
  have hlength := length_padded hwidth.1 hn
  have hmost : ∀ m ∈ some 9, (padded width n).length ≤ m := by
    rintro m ⟨⟩
    rw [hlength]
    exact hwidth.2
  have hword : n < 2 ^ 63 := by
    have := Nat.pow_le_pow_right (show 0 < 10 by decide) hwidth.2
    omega
  have hcount := digitCount_append (fun c => isDigit_of_mem_padded) hrest hmost
  have hnone : ∀ c ∈ ([] : List Char), c.isDigit = true := nofun
  have hdrop : rest.dropWhile Char.isDigit = rest := Text.dropWhile_digits hnone hrest
  rw [List.cons_append, scanFraction, hcount, hlength, scanNumber_padded hrest hmost hword]
  show Except.ok (n * Nat.pow 10 (9 - width), rest.dropWhile Char.isDigit) = _
  rw [hdrop]

theorem scanFraction_fractionText {nano : Nat} {c : Char} (rest : List Char) (hnano : nano < 1000000000)
    (hc : c.isDigit = false ∧ c ≠ '.') :
    scanFraction (Timestamp.fractionText nano ++ c :: rest) = .ok (nano, c :: rest) := by
  have hend := endsDigits_cons rest hc.1
  rw [Timestamp.fractionText]
  split
  · rename_i hzero
    -- There is no fraction: what follows is not taken for the point of one.
    rw [List.nil_append, hzero]
    unfold scanFraction
    split
    · rename_i heq
      cases heq
      exact absurd rfl hc.2
    · rfl
  · split
    · rw [scanFraction_padded hend (by decide) (by omega), Nat.div_mul_cancel (Nat.dvd_of_mod_eq_zero ‹_›)]
    · split
      · rw [scanFraction_padded hend (by decide) (by omega), Nat.div_mul_cancel (Nat.dvd_of_mod_eq_zero ‹_›)]
      · rw [scanFraction_padded hend (by decide) (by omega), show Nat.pow 10 (9 - 9) = 1 from rfl, Nat.mul_one]

/-! ## Timestamps -/

theorem Date.month_mem (d : Date) : 1 ≤ d.month ∧ d.month ≤ 12 := by
  have hday := d.day_mem
  unfold daysInMonth at hday
  split at hday <;> omega

theorem Date.day_le (d : Date) : d.day ≤ 31 := by
  have hday := d.day_mem
  unfold daysInMonth at hday
  repeat' split at hday
  all_goals omega

theorem Date.ofParts?_self (d : Date) : Date.ofParts? d.year d.month d.day = some d :=
  dif_pos ⟨d.year_mem, d.day_mem⟩

theorem Timestamp.ofParts?_self (t : Timestamp) :
    Timestamp.ofParts? t.date t.hour t.minute t.second t.nano = some t :=
  dif_pos ⟨t.hour_lt, t.minute_lt, t.second_lt, t.nano_lt⟩

/-- The instant is in no leap second but one at the end of a minute. -/
def Timestamp.LeapEndsMinute (t : Timestamp) : Prop := 1000000000 ≤ t.nano → t.second = 59

instance (t : Timestamp) : Decidable t.LeapEndsMinute := inferInstanceAs (Decidable (_ → _))

/-- The instant that the text shows: in the second after in place of a leap second that ends no minute. -/
def Timestamp.shown (t : Timestamp) : Timestamp :=
  if h : t.LeapEndsMinute then t
  else
    { t with
      second := t.second + 1, nano := t.nano - 1000000000
      second_lt := by
        have := t.second_lt
        unfold LeapEndsMinute at h
        omega
      nano_lt := Nat.lt_of_le_of_lt (Nat.sub_le _ _) t.nano_lt }

theorem Timestamp.shown_eq_self_iff {t : Timestamp} : t.shown = t ↔ t.LeapEndsMinute := by
  unfold shown
  split
  · exact iff_of_true rfl ‹_›
  · refine iff_of_false (fun heq => ?_) ‹_›
    have hsecond : t.second + 1 = t.second := congrArg Timestamp.second heq
    omega

theorem Timestamp.ofClock?_shown (t : Timestamp) :
    ofClock? t.date t.hour t.minute (t.second + t.nano / 1000000000) (t.nano % 1000000000) = some t.shown := by
  have hsecond := t.second_lt
  have hnano := t.nano_lt
  unfold ofClock?
  by_cases hleap : 1000000000 ≤ t.nano
  · have hdiv : t.nano / 1000000000 = 1 := by omega
    have hmod : t.nano % 1000000000 = t.nano - 1000000000 := by omega
    rw [hdiv, hmod]
    by_cases hend : t.second = 59
    · rw [if_pos (by omega), Nat.add_sub_cancel' hleap, ← hend, ofParts?_self, shown_eq_self_iff.2 fun _ => hend]
    · rw [if_neg (by omega), shown, dif_neg fun h => hend (h hleap)]
      exact dif_pos ⟨t.hour_lt, t.minute_lt, by omega, by omega⟩
  · rw [Nat.div_eq_of_lt (by omega), Nat.mod_eq_of_lt (by omega), if_neg (by omega),
      shown_eq_self_iff.2 fun h => absurd h hleap]
    exact t.ofParts?_self

theorem endsDigits_fractionText (nano : Nat) {rest : List Char} (h : EndsDigits rest) :
    EndsDigits (Timestamp.fractionText nano ++ rest) := by
  rw [Timestamp.fractionText]
  split
  · exact h
  · split
    · exact endsDigits_cons _ (by decide)
    · split <;> exact endsDigits_cons _ (by decide)

/-- The text of an instant is read as the instant that it shows. -/
theorem Timestamp.parse_localChars (t : Timestamp) : Timestamp.parse (t.localChars ++ ['Z']) = .ok t.shown := by
  have hzone : EndsDigits ['Z'] := endsDigits_cons [] (by decide)
  have hdash (rest : List Char) : scanMark '-' ('-' :: rest) = .ok ((), rest) := scanMark_cons rest (by decide)
  have hcolon (rest : List Char) : scanMark ':' (':' :: rest) = .ok ((), rest) := scanMark_cons rest (by decide)
  have hyear (rest : List Char) := scanYear_yearText (endsDigits_cons (c := '-') rest (by decide)) t.date.year_mem
  have hmonth (rest : List Char) :=
    scanPart_padded (endsDigits_cons (c := '-') rest (by decide)) t.date.month_mem (by decide)
  have hday (rest : List Char) := scanPart_padded (endsDigits_cons (c := 'T') rest (by decide))
    ⟨t.date.day_mem.1, t.date.day_le⟩ (by decide)
  have hT (rest : List Char) : scanSeparator ('T' :: rest) = .ok ((), rest) := by
    rw [scanSeparator, if_pos (.inl rfl)]
  have hhour (rest : List Char) := scanPart_padded (endsDigits_cons (c := ':') rest (by decide))
    ⟨Nat.zero_le t.hour, Nat.le_of_lt_succ t.hour_lt⟩ (by decide)
  have hminute (rest : List Char) := scanPart_padded (endsDigits_cons (c := ':') rest (by decide))
    ⟨Nat.zero_le t.minute, Nat.le_of_lt_succ t.minute_lt⟩ (by decide)
  have hle : t.second + t.nano / 1000000000 ≤ 60 := by
    have := t.second_lt
    have := t.nano_lt
    omega
  have hsecond := scanPart_padded (endsDigits_fractionText (t.nano % 1000000000) hzone) ⟨Nat.zero_le _, hle⟩
    (by decide)
  have hfraction := scanFraction_fractionText (c := 'Z') [] (Nat.mod_lt t.nano (by decide)) (by decide)
  have hZ : scanZone (trimStart ['Z']) = .ok (0, []) := by rfl
  -- The parts are read one after the other, each up to the mark behind it.
  simp only [localChars, dateText, clockText, List.cons_append, List.append_assoc]
  simp only [parse, hyear, hdash, hmonth, hday, hT, hhour, hcolon, hminute, hsecond, hfraction, hZ,
    bind, Except.bind]
  -- Nothing is left of the text, and the zone is that of the timestamp itself.
  rw [if_neg (by decide), Date.ofParts?_self]
  simp only [Timestamp.ofClock?_shown]
  rfl

end ResourceCatalog.Time
