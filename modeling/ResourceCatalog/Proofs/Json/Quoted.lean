import ResourceCatalog.Json.Value
import ResourceCatalog.Proofs.Text.Digits

/-!
# Quoted texts

Between quotes every character stands for itself or is escaped, and reading gives every character back. No
character is half of a pair, so the units that are read always join to the text that was written.
-/

namespace ResourceCatalog.Json

/-! ## One character -/

theorem scanUnits?_escaped {letter c : Char} (h : unescape? letter = some c) (hu : letter ≠ 'u')
    (rest : List Char) :
    scanUnits? ('\\' :: letter :: rest) = (scanUnits? rest).map fun (units, r) => (c.toNat :: units, r) := by
  rw [scanUnits?.eq_def]
  simp only [Char.reduceEq, if_false, if_true]
  split
  · rename_i heq
    cases heq
    exact absurd rfl hu
  · rename_i heq
    cases heq
    rw [h]
    cases scanUnits? rest <;> rfl
  · rename_i heq
    cases heq

theorem scanUnits?_escapedChar (c : Char) (rest : List Char) :
    scanUnits? (escapedChar c ++ rest) = (scanUnits? rest).map fun (units, r) => (c.toNat :: units, r) := by
  unfold escapedChar
  split
  -- Seven characters are escaped by a letter, the other control characters by their number.
  iterate 7 exact scanUnits?_escaped rfl (by decide) rest
  rename_i h₁ h₂ h₃ h₄ h₅ h₆ h₇
  split
  · rename_i hcontrol
    have hnumber : Text.hexNumber? 0 (Text.hexDigits 4 c.toNat) = some c.toNat := by
      rw [Text.hexNumber?_hexDigits, Nat.mod_eq_of_lt (by omega)]
    rw [List.cons_append, scanUnits?.eq_def]
    simp only [Text.hexDigits, List.nil_append, List.cons_append] at hnumber ⊢
    simp only [Char.reduceEq, if_false, if_true, hnumber]
    cases scanUnits? rest <;> rfl
  · rename_i hplain
    rw [List.singleton_append, scanUnits?.eq_def]
    simp only [if_neg (show ¬c = '"' from h₁), if_neg (show ¬c = '\\' from h₂), if_neg hplain]
    cases scanUnits? rest <;> rfl

theorem scanUnits?_quoted (s : List Char) (rest : List Char) :
    scanUnits? (s.flatMap escapedChar ++ '"' :: rest) = some (s.map Char.toNat, rest) := by
  induction s with
  | nil =>
    rw [List.flatMap_nil, List.nil_append, scanUnits?.eq_def]
    exact if_pos rfl
  | cons c s ih =>
    rw [List.flatMap_cons, List.append_assoc, scanUnits?_escapedChar, ih]
    rfl

/-! ## Whole texts -/

theorem not_half (c : Char) : isHighHalf c.toNat = false ∧ isLowHalf c.toNat = false := by
  have hvalid : c.toNat < 0xD800 ∨ 0xDFFF < c.toNat ∧ c.toNat < 0x110000 := c.valid
  simp only [isHighHalf, isLowHalf, Bool.and_eq_false_iff, decide_eq_false_iff_not]
  omega

theorem joinHalves?_map_toNat (s : List Char) : joinHalves? (s.map Char.toNat) = some s := by
  induction s with
  | nil => rfl
  | cons c s ih =>
    obtain ⟨hhigh, hlow⟩ := not_half c
    -- Joining looks at two units at a time, so the rest is split as well.
    cases s with
    | nil =>
      simp only [List.map_cons, List.map_nil, joinHalves?, hhigh, hlow, Char.ofNat_toNat]
      rfl
    | cons d s =>
      rw [List.map_cons] at ih
      simp only [List.map_cons, joinHalves?, hhigh, hlow, ih, Char.ofNat_toNat]
      rfl

/-- A text between quotes is one token, which has the text. -/
theorem scanToken?_quoted (s : String) (rest : List Char) :
    scanToken? '"' (s.toList.flatMap escapedChar ++ '"' :: rest) = some (.text (some s), rest) := by
  show (scanUnits? _).map _ = _
  rw [scanUnits?_quoted, Option.map_some]
  show some (Token.text ((joinHalves? (s.toList.map Char.toNat)).map String.ofList), rest) = _
  rw [joinHalves?_map_toNat, Option.map_some, String.ofList_toList]

end ResourceCatalog.Json
