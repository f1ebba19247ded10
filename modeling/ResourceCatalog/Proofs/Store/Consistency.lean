import ResourceCatalog.Proofs.Store.Steps
import ResourceCatalog.Proofs.Text.Blank

/-!
# Consistent rows

What holds of the rows of every store that operations lead to: a row stands under its own identifier,
no natural key is taken twice, and every row passes its check. Every step keeps it, and so does every
run.
-/

namespace ResourceCatalog

/-! ## Checked texts -/

/-- A text that counts as given: not too long, and something else in it than blanks. -/
structure Resource.Specified (s : String) : Prop where
  length_mem : 1 ≤ s.length ∧ s.length ≤ 255
  not_blank : ∃ c ∈ s.toList, Text.isBlank c = false

namespace Resource

theorem textProblems_eq_nil_iff {missing s : String} : textProblems missing s = [] ↔ Specified s := by
  have hblank : Text.trim s.toList ≠ [] ↔ ∃ c ∈ s.toList, Text.isBlank c = false := by
    simp [Text.trim_eq_nil_iff]
  have hlength : ¬(s.length = 0 ∨ maxLength < s.length) ↔ 1 ≤ s.length ∧ s.length ≤ 255 := by
    unfold maxLength
    omega
  unfold textProblems
  rw [List.append_eq_nil_iff, ite_eq_right_iff, ite_eq_right_iff]
  constructor
  · rintro ⟨h₁, h₂⟩
    exact ⟨hlength.1 fun h => List.cons_ne_nil _ _ (h₁ h), hblank.1 fun h => List.cons_ne_nil _ _ (h₂ h)⟩
  · rintro ⟨h₁, h₂⟩
    exact ⟨fun h => absurd h (hlength.2 h₁), fun h => absurd h (hblank.2 h₂)⟩

theorem problemLine_eq_nil_iff {field missing s : String} : problemLine field missing s = [] ↔ Specified s := by
  rw [← @textProblems_eq_nil_iff missing s]
  unfold problemLine
  split <;> simp_all

theorem check_eq_ok_iff {r : Resource} : r.check = .ok () ↔ Specified r.title ∧ Specified r.resourceKey := by
  have hlines : r.problemLines = [] ↔ Specified r.title ∧ Specified r.resourceKey := by
    rw [problemLines, List.append_eq_nil_iff, problemLine_eq_nil_iff, problemLine_eq_nil_iff, and_comm]
  rw [← hlines]
  unfold check
  split <;> simp_all

end Resource

/-! ## Rows -/

/-- What holds of the rows of a store at all times. -/
structure Rows.Consistent (rows : Rows) : Prop where
  own_id : ∀ id row, rows.get? id = some row → row.id = id
  key_unique : ∀ id₁ id₂ row₁ row₂, rows.get? id₁ = some row₁ → rows.get? id₂ = some row₂ → id₁ ≠ id₂ →
    row₁.naturalKey ≠ row₂.naturalKey
  checked : ∀ id row, rows.get? id = some row → row.check = .ok ()

namespace Rows.Consistent

variable {rows : Rows} {id : ResourceId} {row : Resource}

theorem empty : Rows.empty.Consistent := by
  refine ⟨?_, ?_, ?_⟩ <;> intros <;> simp_all

theorem get?_of_mem (h : rows.Consistent) (hmem : row ∈ rows.toList) : rows.get? row.id = some row := by
  obtain ⟨id, hget⟩ := mem_toList_iff.1 hmem
  rw [h.own_id id row hget]
  exact hget

/-- Storing a row that passes its check keeps rows consistent if no other row has its natural key. -/
theorem insert (h : rows.Consistent) (hid : row.id = id) (hcheck : row.check = .ok ())
    (hkey : ∀ other ∈ rows.toList, other.id ≠ id → other.naturalKey ≠ row.naturalKey) :
    (rows.insert id row).Consistent := by
  -- By `own_id`, rows under other identifiers are the other rows that `hkey` speaks of.
  have hother : ∀ k r, k ≠ id → rows.get? k = some r → r.naturalKey ≠ row.naturalKey := by
    intro k r hk hget
    exact hkey r (mem_toList_iff.2 ⟨k, hget⟩) (by rw [h.own_id k r hget]; exact hk)
  refine ⟨?_, ?_, ?_⟩
  · intro k r hget
    rw [get?_insert] at hget
    split at hget
    · rename_i hk
      cases hget
      rw [hid, hk]
    · exact h.own_id k r hget
  · -- The new row against an old one in either order; two old rows already differ.
    intro k₁ k₂ r₁ r₂ h₁ h₂ hne
    rw [get?_insert] at h₁ h₂
    split at h₁ <;> split at h₂
    · rename_i hk₁ hk₂
      exact absurd (hk₁.trans hk₂.symm) hne
    · rename_i hk₂
      cases h₁
      exact (hother k₂ r₂ hk₂ h₂).symm
    · rename_i hk₁ _
      cases h₂
      exact hother k₁ r₁ hk₁ h₁
    · exact h.key_unique k₁ k₂ r₁ r₂ h₁ h₂ hne
  · intro k r hget
    rw [get?_insert] at hget
    split at hget
    · cases hget
      exact hcheck
    · exact h.checked k r hget

theorem erase (h : rows.Consistent) (id : ResourceId) : (rows.erase id).Consistent := by
  -- Nothing new can be looked up, and all three properties speak of what is looked up.
  have hkept : ∀ k r, (rows.erase id).get? k = some r → rows.get? k = some r := by
    intro k r hget
    rw [get?_erase] at hget
    split at hget
    · cases hget
    · exact hget
  refine ⟨fun k r hget => h.own_id k r (hkept k r hget), ?_, fun k r hget => h.checked k r (hkept k r hget)⟩
  intro k₁ k₂ r₁ r₂ h₁ h₂
  exact h.key_unique k₁ k₂ r₁ r₂ (hkept k₁ r₁ h₁) (hkept k₂ r₂ h₂)

end Rows.Consistent

/-! ## Steps and runs -/

namespace Store

variable {s s' : Store}

theorem save_consistent {r row : Resource} (h : s.rows.Consistent) (hsave : s.save r = .ok (row, s')) :
    s'.rows.Consistent := by
  obtain ⟨hcheck, -, hclash, hrow, rfl⟩ := save_eq_ok_iff.1 hsave
  have hid : row.id = r.id := by rw [hrow, stored_id]
  -- The clash was looked for with the row as it is stored, not with the one that was given.
  apply h.insert hid
  · rw [hrow, stored_check]
    exact hcheck
  · rw [← hid]
    exact clash?_eq_none_iff.1 hclash

theorem step_consistent (h : s.rows.Consistent) (op : Operation) : (s.step op).2.rows.Consistent := by
  rcases step_cases (Prod.eta (s.step op)).symm with hrows | ⟨r, row, -, -, hsave⟩ | ⟨id, removed, -, -, hremove⟩
  · rw [hrows]
    exact h
  · exact save_consistent h hsave
  · obtain ⟨-, -, hs⟩ := remove_eq_ok_iff.1 hremove
    rw [hs]
    exact h.erase id

theorem run_consistent (h : s.rows.Consistent) (ops : List Operation) : (s.run ops).rows.Consistent := by
  induction ops generalizing s with
  | nil => exact h
  | cons op ops ih => exact ih (step_consistent h op)

theorem Reachable.consistent (h : s.Reachable) : s.rows.Consistent := by
  obtain ⟨ops, rfl⟩ := h
  exact run_consistent .empty ops

/-- Whatever operations a store without rows has answered, and whether they succeeded or failed, every row
stands under its own identifier, rows of different identifiers have different natural keys, and every row
passes its check: its title and its key are given. -/
theorem rows_consistent_after_run (ops : List Operation) :
    (∀ id row, (empty.run ops).rows.get? id = some row → row.id = id) ∧
    (∀ id₁ id₂ row₁ row₂, (empty.run ops).rows.get? id₁ = some row₁ →
      (empty.run ops).rows.get? id₂ = some row₂ → id₁ ≠ id₂ → row₁.naturalKey ≠ row₂.naturalKey) ∧
    ∀ id row, (empty.run ops).rows.get? id = some row →
      row.check = .ok () ∧ Resource.Specified row.title ∧ Resource.Specified row.resourceKey := by
  have h : (empty.run ops).rows.Consistent := run_consistent .empty ops
  refine ⟨h.own_id, h.key_unique, fun id row hget => ?_⟩
  have hcheck := h.checked id row hget
  exact ⟨hcheck, Resource.check_eq_ok_iff.1 hcheck⟩

end Store

end ResourceCatalog
