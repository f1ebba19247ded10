import ResourceCatalog.Proofs.Store.Rows
import ResourceCatalog.Store.Run

/-!
# Steps of a store

When saving and removing succeed and what they leave behind. A step of a store either keeps its rows,
or stores one row under its identifier, or takes one identifier away.
-/

namespace ResourceCatalog.Store

/-! ## The row that is stored -/

section Stored

variable (rows : Rows) (r : Resource)

@[simp] theorem stored_id : (stored rows r).id = r.id := by
  unfold stored
  split <;> rfl

@[simp] theorem stored_title : (stored rows r).title = r.title := by
  unfold stored
  split <;> rfl

@[simp] theorem stored_resourceType : (stored rows r).resourceType = r.resourceType := by
  unfold stored
  split <;> rfl

@[simp] theorem stored_resourceKey : (stored rows r).resourceKey = r.resourceKey := by
  unfold stored
  split <;> rfl

/-- The fields that saving may replace are not checked. -/
@[simp] theorem stored_check : (stored rows r).check = r.check := by
  unfold stored
  split <;> rfl

end Stored

theorem clash?_eq_none_iff {rows : Rows} {r : Resource} :
    clash? rows r = none ↔ ∀ other ∈ rows.toList, other.id ≠ r.id → other.naturalKey ≠ r.naturalKey := by
  simp [clash?]

/-! ## Operations that succeed -/

variable {s s' : Store} {r row : Resource} {id : ResourceId} {removed : Bool}

theorem ensureAvailable_of_available (h : s.available = true) : s.ensureAvailable = .ok () := if_pos h

theorem save_eq_ok_iff : s.save r = .ok (row, s') ↔
    r.check = .ok () ∧ s.available = true ∧ clash? s.rows row = none ∧ row = stored s.rows r ∧
      s' = { s with rows := s.rows.insert r.id row } := by
  -- The guards in the order of the function: the first that fails refutes both sides.
  unfold save ensureAvailable
  cases hcheck : r.check with
  | error e => simp [bind, Except.bind]
  | ok u =>
    by_cases ha : s.available = true
    · cases hclash : clash? s.rows (stored s.rows r) with
      | some other =>
        simp only [ha, hclash, bind, Except.bind, if_true]
        constructor
        · intro h
          cases h
        · rintro ⟨-, -, hnone, rfl, -⟩
          rw [hclash] at hnone
          cases hnone
      | none =>
        simp only [ha, hclash, bind, Except.bind, if_true, Except.ok.injEq, Prod.mk.injEq, true_and]
        constructor
        · rintro ⟨rfl, rfl⟩
          exact ⟨hclash, rfl, rfl⟩
        · rintro ⟨-, rfl, rfl⟩
          exact ⟨rfl, rfl⟩
    · simp [ha, bind, Except.bind]

theorem remove_eq_ok_iff : s.remove id = .ok (removed, s') ↔
    s.available = true ∧ removed = s.rows.contains id ∧ s' = { s with rows := s.rows.erase id } := by
  unfold remove ensureAvailable
  by_cases ha : s.available = true
  · simp [ha, bind, Except.bind, pure, Except.pure, eq_comm]
  · simp [ha, bind, Except.bind]

/-! ## What they leave behind -/

theorem save_available (h : s.save r = .ok (row, s')) : s'.available = s.available := by
  obtain ⟨-, -, -, -, rfl⟩ := save_eq_ok_iff.1 h
  rfl

theorem save_get? (h : s.save r = .ok (row, s')) (other : ResourceId) :
    s'.rows.get? other = if other = r.id then some row else s.rows.get? other := by
  obtain ⟨-, -, -, -, rfl⟩ := save_eq_ok_iff.1 h
  exact Rows.get?_insert s.rows r.id row other

theorem remove_available (h : s.remove id = .ok (removed, s')) : s'.available = s.available := by
  obtain ⟨-, -, rfl⟩ := remove_eq_ok_iff.1 h
  rfl

theorem remove_get? (h : s.remove id = .ok (removed, s')) (other : ResourceId) :
    s'.rows.get? other = if other = id then none else s.rows.get? other := by
  obtain ⟨-, -, rfl⟩ := remove_eq_ok_iff.1 h
  exact Rows.get?_erase s.rows id other

/-! ## Steps -/

theorem step_save_of_ok (h : s.save r = .ok (row, s')) : s.step (.save r) = (.resource row, s') := by
  rw [step, h]
  rfl

theorem step_save_of_error {f : Failure} (h : s.save r = .error f) : s.step (.save r) = (.failed f, s) := by
  rw [step, h]
  rfl

-- All that a step can do to the rows. Invariants are proved from this and never open the step.
theorem step_cases {op : Operation} {answer : Answer} (h : s.step op = (answer, s')) :
    s'.rows = s.rows ∨
      (∃ r row, op = .save r ∧ answer = .resource row ∧ s.save r = .ok (row, s')) ∨
      ∃ id removed, op = .remove id ∧ answer = .truth removed ∧ s.remove id = .ok (removed, s') := by
  cases op with
  | save r =>
    cases hsave : s.save r with
    | ok result =>
      rw [step_save_of_ok hsave] at h
      cases h
      exact .inr (.inl ⟨r, result.1, rfl, rfl, hsave⟩)
    | error e =>
      rw [step_save_of_error hsave] at h
      cases h
      exact .inl rfl
  | remove id =>
    cases hremove : s.remove id with
    | ok result =>
      simp only [step, hremove, changeOf, Prod.mk.injEq] at h
      obtain ⟨rfl, rfl⟩ := h
      exact .inr (.inr ⟨id, result.1, rfl, rfl, hremove⟩)
    | error e =>
      simp only [step, hremove, changeOf, Prod.mk.injEq] at h
      exact .inl (h.2 ▸ rfl)
  -- Asking, and the switch, leave the rows alone.
  | find | «exists» | list | setAvailable =>
    simp only [step, Prod.mk.injEq] at h
    exact .inl (h.2 ▸ rfl)

end ResourceCatalog.Store
