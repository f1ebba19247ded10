import Mathlib.Data.List.DropRight
import ResourceCatalog.Text.Blank

/-!
# Trimming

Trimming leaves nothing of a text of blanks alone and everything of a text without blanks, and from what it leaves
nothing can be trimmed again.
-/

namespace ResourceCatalog.Text

theorem trimEnd_eq_rdropWhile (s : List Char) : trimEnd s = s.rdropWhile isBlank := rfl

theorem trim_eq_nil_iff {s : List Char} : trim s = [] ↔ ∀ c ∈ s, isBlank c = true := by
  rw [trim, trimEnd_eq_rdropWhile, List.rdropWhile_eq_nil_iff]
  constructor
  · intro h
    have hnil : (s.dropWhile isBlank).dropWhile isBlank = [] := List.dropWhile_eq_nil_iff.2 h
    rw [List.dropWhile_idempotent] at hnil
    exact List.dropWhile_eq_nil_iff.1 hnil
  · intro h c hc
    exact h c ((List.dropWhile_sublist isBlank).subset hc)

/-- Taking blanks off the end leaves the first character, if it leaves any. -/
theorem trimStart_trimEnd {s : List Char} (h : trimStart s = s) : trimStart (trimEnd s) = trimEnd s := by
  rw [trimStart, List.dropWhile_eq_self_iff] at h ⊢
  intro hpos
  have hfront : trimEnd s <+: s := List.rdropWhile_prefix isBlank s
  rw [hfront.getElem]
  exact h (Nat.lt_of_lt_of_le hpos hfront.length_le)

@[simp] theorem trim_trim (s : List Char) : trim (trim s) = trim s := by
  have hstart : trimStart (trim s) = trim s := trimStart_trimEnd (List.dropWhile_idempotent isBlank s)
  rw [trim, hstart]
  exact List.rdropWhile_idempotent isBlank (trimStart s)

/-- Blanks around a text that has none are all that is trimmed off. -/
theorem trim_append {before s after : List Char} (hbefore : ∀ c ∈ before, isBlank c = true)
    (hs : ∀ c ∈ s, isBlank c = false) (hafter : ∀ c ∈ after, isBlank c = true) :
    trim (before ++ (s ++ after)) = s := by
  cases s with
  | nil =>
    rw [List.nil_append, trim_eq_nil_iff]
    intro c hc
    exact (List.mem_append.1 hc).elim (hbefore c) (hafter c)
  | cons c s =>
    have hstart : trimStart (before ++ (c :: s ++ after)) = c :: s ++ after := by
      rw [trimStart, List.dropWhile_append_of_pos hbefore]
      exact List.dropWhile_cons_of_neg (by simp [hs c List.mem_cons_self])
    have hend : (c :: s).reverse.dropWhile isBlank = (c :: s).reverse :=
      List.dropWhile_eq_self_iff.2 fun hpos => by rw [hs _ (List.mem_reverse.1 (List.getElem_mem hpos))]; decide
    rw [trim, hstart, trimEnd, List.reverse_append,
      List.dropWhile_append_of_pos fun d hd => hafter d (List.mem_reverse.1 hd), hend, List.reverse_reverse]

end ResourceCatalog.Text
