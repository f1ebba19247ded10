import ResourceCatalog.Text.Blank
import ResourceCatalog.Text.Lowercase

/-!
# The case of ASCII letters

Neither lower-casing nor trimming sees the case of the ASCII letters of a text. Both forms of a letter have the same
lower-case form, and beside a sigma both are cased letters that nothing looks through.
-/

namespace ResourceCatalog.Text

/-- The texts differ at most in the case of ASCII letters, any of them. -/
def Recased (s t : List Char) : Prop := s.map Char.toLower = t.map Char.toLower

instance (s t : List Char) : Decidable (Recased s t) := inferInstanceAs (Decidable (_ = _))

/-- What is the same of both forms of each of the 26 letters does not depend on case. -/
theorem apply_toLower {α : Type} {f : Char → α}
    (hf : ∀ n < 26, f (Char.ofNat (97 + n)) = f (Char.ofNat (65 + n))) (c : Char) : f c.toLower = f c := by
  by_cases h : 65 ≤ c.toNat ∧ c.toNat ≤ 90
  · obtain ⟨n, hn, rfl⟩ : ∃ n < 26, c = Char.ofNat (65 + n) := by
      refine ⟨c.toNat - 65, by omega, ?_⟩
      rw [Nat.add_sub_cancel' h.1, Char.ofNat_toNat]
    have hlower : (Char.ofNat (65 + n)).toLower = Char.ofNat (97 + n) :=
      (show ∀ n < 26, (Char.ofNat (65 + n)).toLower = Char.ofNat (97 + n) by decide) n hn
    rw [hlower, hf n hn]
  · have hsame : c.toLower = c := dif_neg h
    rw [hsame]

theorem isBlank_toLower (c : Char) : isBlank c.toLower = isBlank c := apply_toLower (by decide) c

theorem isCaseIgnorable_toLower (c : Char) : isCaseIgnorable c.toLower = isCaseIgnorable c :=
  apply_toLower (by decide +kernel) c

theorem isCased_toLower (c : Char) : isCased c.toLower = isCased c := apply_toLower (by decide) c

theorem lowerLetter_toLower (c : Char) : lowerLetter c.toLower = lowerLetter c := apply_toLower (by decide) c

/-! ## Lower-casing -/

theorem meetsCased_cons (c : Char) (s : List Char) :
    meetsCased (c :: s) = if isCaseIgnorable c then meetsCased s else isCased c := by
  unfold meetsCased
  cases h : isCaseIgnorable c with
  | true => rw [List.dropWhile_cons_of_pos h, if_pos rfl]
  | false =>
    rw [List.dropWhile_cons_of_neg (by simp [h])]
    rfl

theorem meetsCased_map (s : List Char) : meetsCased (s.map Char.toLower) = meetsCased s := by
  induction s with
  | nil => rfl
  | cons c s ih =>
    rw [List.map_cons, meetsCased_cons, meetsCased_cons, isCaseIgnorable_toLower, isCased_toLower, ih]

theorem lowerBetween_map (before : List Char) (c : Char) (after : List Char) :
    lowerBetween (before.map Char.toLower) c.toLower (after.map Char.toLower) = lowerBetween before c after := by
  -- The two letters with rules of their own are outside ASCII.
  have hsigma : decide (c.toLower = 'Σ') = decide (c = 'Σ') :=
    apply_toLower (f := fun d => decide (d = 'Σ')) (by decide) c
  have hdotted : decide (c.toLower = 'İ') = decide (c = 'İ') :=
    apply_toLower (f := fun d => decide (d = 'İ')) (by decide) c
  rw [decide_eq_decide] at hsigma hdotted
  simp only [lowerBetween, hsigma, hdotted, meetsCased_map, lowerLetter_toLower]

theorem lowerAfter_map (before s : List Char) :
    lowerAfter (before.map Char.toLower) (s.map Char.toLower) = lowerAfter before s := by
  induction s generalizing before with
  | nil => rfl
  | cons c s ih => rw [List.map_cons, lowerAfter, lowerAfter, lowerBetween_map, ← List.map_cons, ih]

/-! ## Trimming -/

theorem trimStart_map (s : List Char) : trimStart (s.map Char.toLower) = (trimStart s).map Char.toLower := by
  have hblank : isBlank ∘ Char.toLower = isBlank := funext isBlank_toLower
  rw [trimStart, List.dropWhile_map, hblank, trimStart]

theorem trim_map (s : List Char) : trim (s.map Char.toLower) = (trim s).map Char.toLower := by
  show (trimStart (trimStart (s.map Char.toLower)).reverse).reverse = _
  rw [trimStart_map, ← List.map_reverse, trimStart_map, ← List.map_reverse]
  rfl

namespace Recased

variable {s t : List Char} (h : Recased s t)
include h

theorem map_eq : s.map Char.toLower = t.map Char.toLower := h

/-- Texts that differ in the case of ASCII letters have the same lower-case form. -/
theorem lowercase_eq : lowercase s = lowercase t := by
  calc lowercase s = lowercase (s.map Char.toLower) := (lowerAfter_map [] s).symm
    _ = lowercase (t.map Char.toLower) := by rw [h.map_eq]
    _ = lowercase t := lowerAfter_map [] t

theorem trim_recased : Recased (trim s) (trim t) := by
  show (trim s).map Char.toLower = (trim t).map Char.toLower
  rw [← trim_map, ← trim_map, h.map_eq]

theorem eq_nil_iff : s = [] ↔ t = [] := by
  rw [← List.map_eq_nil_iff (f := Char.toLower), h.map_eq, List.map_eq_nil_iff]

end Recased

end ResourceCatalog.Text
