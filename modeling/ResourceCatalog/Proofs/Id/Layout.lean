import Mathlib.Data.List.Induction
import Mathlib.Data.Nat.Digits.Defs
import ResourceCatalog.Proofs.Id.Spelling

/-!
# The texts of UUIDs

A text is read as a UUID just if it is laid out in one of four ways and has hexadecimal digits in all places for
digits. The UUID is the number that these digits spell, and it is written with the same digits in lower case.
-/

namespace ResourceCatalog.Id

open Text (hexDigit hexDigits hexValue? hexNumber? hexNumber?_concat length_hexDigits)

/-! ## Digits -/

/-- The hexadecimal digits in lower case, each at the place of its value. -/
def hexAlphabet : List Char :=
  ['0', '1', '2', '3', '4', '5', '6', '7', '8', '9', 'a', 'b', 'c', 'd', 'e', 'f']

/-- A hexadecimal digit in either case. -/
def IsHexDigit (c : Char) : Prop := c.toLower ∈ hexAlphabet

instance : DecidablePred IsHexDigit := fun _ => inferInstanceAs (Decidable (_ ∈ _))

def digitValue (c : Char) : Nat := hexAlphabet.idxOf c.toLower

/-- The number that digits spell, the most significant first. -/
def spelledValue (digits : List Char) : Nat := Nat.ofDigits 16 (digits.reverse.map digitValue)

theorem digitValue_lt {c : Char} (h : IsHexDigit c) : digitValue c < 16 := List.idxOf_lt_length_iff.2 h

theorem hexDigit_digitValue {c : Char} (h : IsHexDigit c) : hexDigit (digitValue c) = c.toLower := by
  have hall : hexAlphabet.all (fun d => hexDigit (hexAlphabet.idxOf d) = d) = true := by decide
  exact of_decide_eq_true (List.all_eq_true.1 hall c.toLower h)

theorem hexValue?_eq (c : Char) : hexValue? c = if IsHexDigit c then some (digitValue c) else none := by
  by_cases h : c.toNat < 128
  · have hascii : ∀ n < 128, hexValue? (Char.ofNat n) =
        if IsHexDigit (Char.ofNat n) then some (digitValue (Char.ofNat n)) else none := by decide +kernel
    have hc := hascii c.toNat h
    rwa [Char.ofNat_toNat] at hc
  · -- Beyond ASCII there are no digits, and no character has another case.
    have hlower : c.toLower = c := dif_neg fun hc => absurd (show c.toNat ≤ 90 from hc.2) (by omega)
    have hno : ¬ IsHexDigit c := by
      intro hmem
      have hall : hexAlphabet.all (fun d => d.toNat < 128) = true := by decide
      rw [IsHexDigit, hlower] at hmem
      exact h (of_decide_eq_true (List.all_eq_true.1 hall c hmem))
    have hle : ∀ d : Char, d.toNat < 128 → ¬ c ≤ d := by
      intro d hd hcd
      have hnat : c.toNat ≤ d.toNat := hcd
      omega
    rw [if_neg hno, hexValue?, if_neg fun hc => hle '9' (by decide) hc.2, if_neg fun hc => hle 'f' (by decide) hc.2,
      if_neg fun hc => hle 'F' (by decide) hc.2]

theorem hexValue?_eq_some_iff {c : Char} {d : Nat} : hexValue? c = some d ↔ IsHexDigit c ∧ digitValue c = d := by
  rw [hexValue?_eq]
  by_cases h : IsHexDigit c
  · rw [if_pos h, Option.some_inj]
    exact (and_iff_right h).symm
  · rw [if_neg h]
    exact ⟨nofun, fun hc => absurd hc.1 h⟩

theorem spelledValue_concat (digits : List Char) (c : Char) :
    spelledValue (digits ++ [c]) = 16 * spelledValue digits + digitValue c := by
  rw [spelledValue, List.reverse_concat, List.map_cons, Nat.ofDigits_cons, Nat.add_comm]
  rfl

theorem forall_mem_concat {digits : List Char} {c : Char} {P : Char → Prop} :
    (∀ d ∈ digits ++ [c], P d) ↔ (∀ d ∈ digits, P d) ∧ P c := by
  simp only [List.mem_append, List.mem_singleton, or_imp, forall_and, forall_eq]

theorem hexNumber?_eq_some_iff {digits : List Char} {n : Nat} :
    hexNumber? 0 digits = some n ↔ (∀ c ∈ digits, IsHexDigit c) ∧ spelledValue digits = n := by
  induction digits using List.reverseRecOn generalizing n with
  | nil => simp [hexNumber?, spelledValue, eq_comm]
  | append_singleton digits c ih =>
    rw [hexNumber?_concat, forall_mem_concat, spelledValue_concat]
    constructor
    · intro h
      obtain ⟨m, hm, hc⟩ := Option.bind_eq_some_iff.1 h
      obtain ⟨d, hd, rfl⟩ := Option.map_eq_some_iff.1 hc
      obtain ⟨hdigits, rfl⟩ := ih.1 hm
      obtain ⟨hdigit, rfl⟩ := hexValue?_eq_some_iff.1 hd
      exact ⟨⟨hdigits, hdigit⟩, rfl⟩
    · rintro ⟨⟨hdigits, hdigit⟩, rfl⟩
      rw [ih.2 ⟨hdigits, rfl⟩, Option.bind_some, hexValue?_eq_some_iff.2 ⟨hdigit, rfl⟩, Option.map_some]

section Digits

variable {digits : List Char} (h : ∀ c ∈ digits, IsHexDigit c)
include h

theorem spelledValue_lt : spelledValue digits < 16 ^ digits.length := by
  have hlt : ∀ d ∈ digits.reverse.map digitValue, d < 16 := by
    intro d hd
    obtain ⟨c, hc, rfl⟩ := List.mem_map.1 hd
    exact digitValue_lt (h c (List.mem_reverse.1 hc))
  have hbound := Nat.ofDigits_lt_base_pow_length (by decide) hlt
  rwa [List.length_map, List.length_reverse] at hbound

/-- A number is written with the digits that spell it, in lower case. -/
theorem hexDigits_spelledValue : hexDigits digits.length (spelledValue digits) = digits.map Char.toLower := by
  induction digits using List.reverseRecOn with
  | nil => rfl
  | append_singleton digits c ih =>
    obtain ⟨hdigits, hdigit⟩ := forall_mem_concat.1 h
    have hlt := digitValue_lt hdigit
    have hfront : (16 * spelledValue digits + digitValue c) / 16 = spelledValue digits := by omega
    have hlast : (16 * spelledValue digits + digitValue c) % 16 = digitValue c := by omega
    rw [List.length_append, List.length_singleton, hexDigits, spelledValue_concat, hfront, hlast, ih hdigits,
      hexDigit_digitValue hdigit, List.map_append, List.map_singleton]

end Digits

/-! ## Layouts -/

/-- Digits in groups of 8, 4, 4, 4 and 12, with hyphens between the groups. -/
def Grouped (digits s : List Char) : Prop :=
  ∃ groups : List (List Char), groups.map List.length = [8, 4, 4, 4, 12] ∧ groups.flatten = digits ∧
    ['-'].intercalate groups = s

section Groups

variable {a b c d e : List Char} (ha : a.length = 8) (hb : b.length = 4) (hc : c.length = 4) (hd : d.length = 4)
  (he : e.length = 12)
include ha hb hc hd he

theorem Grouped.of_lengths :
    Grouped (a ++ (b ++ (c ++ (d ++ e)))) (a ++ '-' :: (b ++ '-' :: (c ++ '-' :: (d ++ '-' :: e)))) :=
  ⟨[a, b, c, d, e], by simp [ha, hb, hc, hd, he], by simp, by simp [List.intercalate, List.intersperse]⟩

omit he in
theorem hyphenated_append :
    hyphenated (a ++ (b ++ (c ++ (d ++ e)))) = a ++ '-' :: (b ++ '-' :: (c ++ '-' :: (d ++ '-' :: e))) := by
  have h8 : ∀ r : List Char, (a ++ r).drop 8 = r := fun r => List.drop_left' ha
  have h12 : ∀ r : List Char, (a ++ (b ++ r)).drop (8 + 4) = r := fun r => by
    rw [← List.drop_drop, h8, List.drop_left' hb]
  have h16 : ∀ r : List Char, (a ++ (b ++ (c ++ r))).drop (12 + 4) = r := fun r => by
    rw [← List.drop_drop, h12, List.drop_left' hc]
  have h20 : ∀ r : List Char, (a ++ (b ++ (c ++ (d ++ r)))).drop (16 + 4) = r := fun r => by
    rw [← List.drop_drop, h16, List.drop_left' hd]
  rw [hyphenated, h8, h12, h16, h20, List.take_left' ha, List.take_left' hb, List.take_left' hc, List.take_left' hd]

end Groups

theorem grouped_iff {digits s : List Char} : Grouped digits s ↔ digits.length = 32 ∧ s = hyphenated digits := by
  constructor
  · rintro ⟨groups, hlengths, rfl, rfl⟩
    obtain ⟨a, b, c, d, e, rfl⟩ : ∃ a b c d e, groups = [a, b, c, d, e] := by
      have hlength := congrArg List.length hlengths
      rw [List.length_map] at hlength
      match groups, hlength with
      | [a, b, c, d, e], _ => exact ⟨a, b, c, d, e, rfl⟩
    simp only [List.map_cons, List.map_nil, List.cons.injEq, and_true] at hlengths
    obtain ⟨ha, hb, hc, hd, he⟩ := hlengths
    refine ⟨by simp [ha, hb, hc, hd, he], ?_⟩
    have hflat : [a, b, c, d, e].flatten = a ++ (b ++ (c ++ (d ++ e))) := by simp
    rw [hflat, hyphenated_append ha hb hc hd]
    simp [List.intercalate, List.intersperse]
  · rintro ⟨hlength, rfl⟩
    have hgrouped : Grouped (digits.take 8 ++ ((digits.drop 8).take 4 ++ ((digits.drop 12).take 4 ++
        ((digits.drop 16).take 4 ++ digits.drop 20)))) (hyphenated digits) := by
      apply Grouped.of_lengths <;> simp [hlength]
    rwa [groups_append] at hgrouped

theorem Grouped.length_eq {digits s : List Char} (h : Grouped digits s) : digits.length = 32 := (grouped_iff.1 h).1

theorem Grouped.length_text {digits s : List Char} (h : Grouped digits s) : s.length = 36 := by
  obtain ⟨hlength, rfl⟩ := grouped_iff.1 h
  simp [hyphenated, hlength]

/-- The four layouts of a text with given digits. -/
inductive LaidOut (digits : List Char) : List Char → Prop where
  | bare : LaidOut digits digits
  | grouped {s : List Char} (h : Grouped digits s) : LaidOut digits s
  | braced {s : List Char} (h : Grouped digits s) : LaidOut digits ('\x7b' :: (s ++ ['\x7d']))
  | urn {mark s : List Char} (hmark : mark.map Char.toLower = "urn:uuid:".toList) (h : Grouped digits s) :
      LaidOut digits (mark ++ s)

/-- The text is one of the four spellings of a UUID, with these digits. -/
structure Spelling (digits s : List Char) : Prop where
  laidOut : LaidOut digits s
  length_eq : digits.length = 32
  isHexDigit : ∀ c ∈ digits, IsHexDigit c

/-- The text spells this UUID. -/
structure Uuid.Spells (u : Uuid) (digits s : List Char) : Prop extends Spelling digits s where
  value_eq : u.value.val = spelledValue digits

theorem Spelling.exists_spells {digits s : List Char} (h : Spelling digits s) : ∃ u : Uuid, u.Spells digits s := by
  have hlt : spelledValue digits < Uuid.count := by
    have hbound := spelledValue_lt h.isHexDigit
    rwa [h.length_eq] at hbound
  exact ⟨⟨⟨spelledValue digits, hlt⟩⟩, h, rfl⟩

/-! ## What is read -/

theorem eq_cons_of_head? {s : List Char} {n : Nat} {c : Char} (h : (s.drop n).head? = some c) :
    s.drop n = c :: s.drop (n + 1) := by
  obtain ⟨rest, hrest⟩ := List.head?_eq_some_iff.1 h
  rw [← List.tail_drop, hrest, List.tail_cons]

theorem unhyphenated?_eq_some_iff {digits s : List Char} : unhyphenated? s = some digits ↔ Grouped digits s := by
  constructor
  · intro h
    rw [unhyphenated?] at h
    split at h
    · rename_i hs
      obtain ⟨hlength, h8, h13, h18, h23⟩ := hs
      cases h
      -- What stands between the four hyphens are the groups.
      have htext : s = s.take 8 ++ '-' :: ((s.drop 9).take 4 ++ '-' :: ((s.drop 14).take 4 ++
          '-' :: ((s.drop 19).take 4 ++ '-' :: s.drop 24))) := by
        rw [← eq_cons_of_head? h23, take_drop_append s 19 4, ← eq_cons_of_head? h18, take_drop_append s 14 4,
          ← eq_cons_of_head? h13, take_drop_append s 9 4, ← eq_cons_of_head? h8, List.take_append_drop]
      rw [List.append_assoc, List.append_assoc, List.append_assoc]
      conv => rhs; rw [htext]
      apply Grouped.of_lengths <;> simp [hlength]
    · cases h
  · intro h
    obtain ⟨hlength, rfl⟩ := grouped_iff.1 h
    exact unhyphenated?_hyphenated hlength

theorem betweenBraces?_eq_some_iff {s inner : List Char} :
    betweenBraces? s = some inner ↔ s = '\x7b' :: (inner ++ ['\x7d']) := by
  constructor
  · intro h
    unfold betweenBraces? at h
    split at h
    · rename_i rest
      split at h
      · rename_i hlast
        obtain ⟨front, rfl⟩ := List.getLast?_eq_some_iff.1 hlast
        rw [List.dropLast_concat] at h
        cases h
        rfl
      · cases h
    · cases h
  · rintro rfl
    simp [betweenBraces?]

theorem length_of_mark {mark : List Char} (h : mark.map Char.toLower = urnMark) : mark.length = 9 := by
  rw [← List.length_map Char.toLower, h]
  rfl

theorem afterUrn?_eq_some_iff {s inner : List Char} :
    afterUrn? s = some inner ↔ ∃ mark, mark.map Char.toLower = urnMark ∧ s = mark ++ inner := by
  constructor
  · intro h
    obtain ⟨hmark, hinner⟩ := Option.ite_none_right_eq_some.1 h
    cases hinner
    exact ⟨s.take 9, hmark, (List.take_append_drop 9 s).symm⟩
  · rintro ⟨mark, hmark, rfl⟩
    have hlength := length_of_mark hmark
    rw [afterUrn?, List.take_left' hlength, List.drop_left' hlength, if_pos hmark]

theorem laidOut_of_spelledDigits? {digits s : List Char} (h : spelledDigits? s = some digits) :
    LaidOut digits s ∧ digits.length = 32 := by
  rw [spelledDigits?] at h
  split at h
  · rename_i hlength
    cases h
    exact ⟨.bare, hlength⟩
  · split at h
    · rename_i inner hinner
      have hgroups := unhyphenated?_eq_some_iff.1 h
      rw [betweenBraces?_eq_some_iff.1 hinner]
      exact ⟨.braced hgroups, hgroups.length_eq⟩
    · split at h
      · rename_i inner hinner
        obtain ⟨mark, hmark, rfl⟩ := afterUrn?_eq_some_iff.1 hinner
        have hgroups := unhyphenated?_eq_some_iff.1 h
        exact ⟨.urn hmark hgroups, hgroups.length_eq⟩
      · have hgroups := unhyphenated?_eq_some_iff.1 h
        exact ⟨.grouped hgroups, hgroups.length_eq⟩

theorem spelledDigits?_of_spelling {digits s : List Char} (h : Spelling digits s) : spelledDigits? s = some digits := by
  obtain ⟨hlaid, hlength, hdigits⟩ := h
  cases hlaid with
  | bare => exact if_pos hlength
  | grouped h =>
    obtain ⟨-, rfl⟩ := grouped_iff.1 h
    apply spelledDigits?_hyphenated hlength
    intro c hc
    have hbrace : ¬ IsHexDigit '\x7b' := by decide
    have hletter : 'u' ∉ hexAlphabet := by decide
    exact ⟨fun heq => hbrace (heq ▸ hdigits c hc), fun heq => hletter (heq ▸ hdigits c hc)⟩
  | @braced s h =>
    have hs := h.length_text
    rw [spelledDigits?, if_neg (by simp [hs]), betweenBraces?_eq_some_iff.2 rfl]
    exact unhyphenated?_eq_some_iff.2 h
  | @urn mark s hmark h =>
    have hs := h.length_text
    have hmarkLength := length_of_mark hmark
    have hbraces : betweenBraces? (mark ++ s) = none := by
      obtain ⟨c, rest, rfl⟩ := List.exists_cons_of_length_eq_add_one hmarkLength
      apply betweenBraces?_eq_none
      rintro rfl
      injection hmark with hhead
      exact absurd hhead (by decide)
    rw [spelledDigits?, if_neg (by simp [hs, hmarkLength]), hbraces, afterUrn?_eq_some_iff.2 ⟨mark, hmark, rfl⟩]
    exact unhyphenated?_eq_some_iff.2 h

/-- A text is read as the UUID that it spells. -/
theorem Uuid.parse_eq_ok_iff {s : List Char} {u : Uuid} : Uuid.parse s = .ok u ↔ ∃ digits, u.Spells digits s := by
  constructor
  · intro h
    rw [Uuid.parse] at h
    split at h
    · rename_i n hn
      obtain ⟨digits, hdigits, hnumber⟩ := Option.bind_eq_some_iff.1 hn
      obtain ⟨hlaid, hlength⟩ := laidOut_of_spelledDigits? hdigits
      obtain ⟨hhex, rfl⟩ := hexNumber?_eq_some_iff.1 hnumber
      split at h
      · cases h
        exact ⟨digits, ⟨hlaid, hlength, hhex⟩, rfl⟩
      · cases h
    · cases h
  · rintro ⟨digits, h⟩
    rw [Uuid.parse, spelledDigits?_of_spelling h.toSpelling, Option.bind_some,
      hexNumber?_eq_some_iff.2 ⟨h.isHexDigit, rfl⟩]
    simp only [← h.value_eq]
    exact dif_pos u.value.isLt

end ResourceCatalog.Id
