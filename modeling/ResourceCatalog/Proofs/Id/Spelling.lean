import ResourceCatalog.Id.Spelling
import ResourceCatalog.Proofs.Text.Digits

/-!
# Reading back UUIDs

The hyphenated text of a UUID is read as one of the four spellings, and the 32 digits in it give the UUID.
-/

namespace ResourceCatalog.Id

open Text (hexDigit hexDigits exists_of_mem_hexDigits length_hexDigits hexNumber?_hexDigits)

/-! ## Groups -/

theorem take_drop_append (s : List Char) (a b : Nat) : (s.drop a).take b ++ s.drop (a + b) = s.drop a := by
  rw [← List.drop_drop, List.take_append_drop]

theorem groups_append (ds : List Char) :
    ds.take 8 ++ ((ds.drop 8).take 4 ++ ((ds.drop 12).take 4 ++ ((ds.drop 16).take 4 ++ ds.drop 20))) = ds := by
  rw [take_drop_append ds 16 4, take_drop_append ds 12 4, take_drop_append ds 8 4, List.take_append_drop]

theorem unhyphenated?_hyphenated {ds : List Char} (h : ds.length = 32) :
    unhyphenated? (hyphenated ds) = some ds := by
  simp [unhyphenated?, hyphenated, List.drop_append, h, List.drop_take, List.drop_drop, groups_append ds]

theorem betweenBraces?_eq_none {c : Char} (rest : List Char) (h : c ≠ '\x7b') : betweenBraces? (c :: rest) = none := by
  unfold betweenBraces?
  split
  · rename_i heq
    cases heq
    exact absurd rfl h
  · rfl

/-- A text that starts with a digit is neither in braces nor behind a mark. -/
theorem spelledDigits?_hyphenated {ds : List Char} (h : ds.length = 32)
    (hfirst : ∀ c ∈ ds, c ≠ '\x7b' ∧ c.toLower ≠ 'u') : spelledDigits? (hyphenated ds) = some ds := by
  have hlength : (hyphenated ds).length = 36 := by simp [hyphenated, h]
  obtain ⟨c, s, hs⟩ := List.exists_cons_of_length_eq_add_one h
  obtain ⟨hbrace, hmark⟩ := hfirst c (hs ▸ List.mem_cons_self)
  obtain ⟨t, ht⟩ : ∃ t, hyphenated ds = c :: t := by
    rw [hs]
    exact ⟨_, rfl⟩
  have hbraces : betweenBraces? (hyphenated ds) = none := ht ▸ betweenBraces?_eq_none t hbrace
  have hurn : afterUrn? (hyphenated ds) = none := by
    rw [afterUrn?, ht]
    apply if_neg
    intro heq
    injection heq with hhead
    exact hmark hhead
  -- With its hyphens the text is too long for bare digits, so only the groups are left.
  rw [spelledDigits?, if_neg (by omega), hbraces, hurn]
  exact unhyphenated?_hyphenated h

theorem Uuid.parse_chars (u : Uuid) : Uuid.parse u.chars = .ok u := by
  have hfirst : ∀ c ∈ hexDigits 32 u.value, c ≠ '\x7b' ∧ c.toLower ≠ 'u' := by
    intro c hc
    obtain ⟨d, hd, rfl⟩ := exists_of_mem_hexDigits hc
    exact (show ∀ d < 16, hexDigit d ≠ '\x7b' ∧ (hexDigit d).toLower ≠ 'u' by decide) d hd
  have hdigits := spelledDigits?_hyphenated (length_hexDigits 32 u.value) hfirst
  have hvalue : u.value.val % 16 ^ 32 = u.value := Nat.mod_eq_of_lt u.value.isLt
  rw [Uuid.parse, Uuid.chars, hdigits, Option.bind_some, hexNumber?_hexDigits, hvalue]
  exact dif_pos u.value.isLt

end ResourceCatalog.Id
