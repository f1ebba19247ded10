import ResourceCatalog.Proofs.Store.Steps

/-!
# Asking for an identifier

A store that can be reached answers from the row under the identifier and from nothing else.
-/

namespace ResourceCatalog

def failureKind? {α : Type} : Outcome α → Option Failure.Kind
  | .ok _ => none
  | .error f => some f.kind

namespace Store

variable {s s' : Store} {id : ResourceId} {r row : Resource} {removed : Bool}

theorem find_of_get?_eq_some (ha : s.available = true) (hget : s.rows.get? id = some row) : s.find id = .ok row := by
  rw [find, ensureAvailable_of_available ha, hget]
  rfl

theorem find_of_get?_eq_none (ha : s.available = true) (hget : s.rows.get? id = none) :
    s.find id = .error (notFound id) := by
  rw [find, ensureAvailable_of_available ha, hget]
  rfl

theorem find_eq_ok_iff (ha : s.available = true) : s.find id = .ok row ↔ s.rows.get? id = some row := by
  cases hget : s.rows.get? id with
  | some old => rw [find_of_get?_eq_some ha hget, Except.ok.injEq, Option.some.injEq]
  | none =>
    rw [find_of_get?_eq_none ha hget]
    simp

theorem exists?_of_available (ha : s.available = true) (id : ResourceId) :
    s.exists? id = .ok (s.rows.contains id) := by
  rw [exists?, ensureAvailable_of_available ha]
  rfl

/-- Both stores answer alike what is asked about the identifier. -/
structure SameAt (s s' : Store) (id : ResourceId) : Prop where
  find_eq : s'.find id = s.find id
  exists?_eq : s'.exists? id = s.exists? id

theorem sameAt_of_get? (ha : s'.available = s.available) (hget : s'.rows.get? id = s.rows.get? id) :
    s.SameAt s' id := by
  constructor
  · rw [find, find, ensureAvailable, ensureAvailable, ha, hget]
  · rw [exists?, exists?, ensureAvailable, ensureAvailable, Rows.contains, Rows.contains, ha, hget]

/-! ## After a change -/

theorem find_of_save (hsave : s.save r = .ok (row, s')) : s'.find r.id = .ok row := by
  obtain ⟨-, ha, -⟩ := save_eq_ok_iff.1 hsave
  apply find_of_get?_eq_some
  · rw [save_available hsave, ha]
  · rw [save_get? hsave, if_pos rfl]

theorem sameAt_of_save (hsave : s.save r = .ok (row, s')) (hne : id ≠ r.id) : s.SameAt s' id := by
  apply sameAt_of_get? (save_available hsave)
  rw [save_get? hsave, if_neg hne]

theorem sameAt_of_remove {other : ResourceId} (hremove : s.remove id = .ok (removed, s')) (hne : other ≠ id) :
    s.SameAt s' other := by
  apply sameAt_of_get? (remove_available hremove)
  rw [remove_get? hremove, if_neg hne]

end Store

end ResourceCatalog
