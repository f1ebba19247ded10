import ResourceCatalog.Proofs.Store.Listing

/-!
# The life of a row

From the save that stores it to the removal that takes it away, a row keeps its identifier, its tenant and
its time of creation. A step that does not remove the row keeps all three, and so does a run of such steps.
-/

namespace ResourceCatalog

/-- What saving a row again does not change. -/
structure Resource.SameOrigin (r r' : Resource) : Prop where
  tenantId : r'.tenantId = r.tenantId
  createdAt : r'.createdAt = r.createdAt

namespace Resource.SameOrigin

theorem refl (r : Resource) : SameOrigin r r := ⟨rfl, rfl⟩

theorem trans {a b c : Resource} (h : SameOrigin a b) (h' : SameOrigin b c) : SameOrigin a c :=
  ⟨h'.tenantId.trans h.tenantId, h'.createdAt.trans h.createdAt⟩

end Resource.SameOrigin

namespace Store

/-- The operations of a run with what they answer. -/
def history (s : Store) : List Operation → List (Operation × Answer)
  | [] => []
  | op :: ops => (op, (s.step op).1) :: history (s.step op).2 ops

variable {s : Store} {id : ResourceId} {row : Resource}

theorem stored_sameOrigin {rows : Rows} {r old : Resource} (h : rows.get? r.id = some old) :
    Resource.SameOrigin old (stored rows r) := by
  rw [stored, h]
  exact ⟨rfl, rfl⟩

theorem step_keeps_origin (op : Operation) (hget : s.rows.get? id = some row)
    (hkept : (op, (s.step op).1) ≠ (.remove id, .truth true)) :
    ∃ row', (s.step op).2.rows.get? id = some row' ∧ Resource.SameOrigin row row' := by
  rcases step_cases (Prod.eta (s.step op)).symm with
    hrows | ⟨r, saved, -, -, hsave⟩ | ⟨other, removed, hop, hanswer, hremove⟩
  · rw [hrows]
    exact ⟨row, hget, .refl row⟩
  · rw [save_get? hsave]
    by_cases hid : id = r.id
    · obtain ⟨-, -, -, hsaved, -⟩ := save_eq_ok_iff.1 hsave
      rw [if_pos hid]
      rw [hid] at hget
      exact ⟨saved, rfl, hsaved ▸ stored_sameOrigin hget⟩
    · rw [if_neg hid]
      exact ⟨row, hget, .refl row⟩
  · rw [remove_get? hremove]
    by_cases hid : id = other
    · -- The row is there, so removing it would have answered that it was.
      obtain ⟨-, hremoved, -⟩ := remove_eq_ok_iff.1 hremove
      have htrue : s.rows.contains other = true := Rows.contains_eq_true_iff.2 ⟨row, hid ▸ hget⟩
      rw [hanswer, hop, hremoved, htrue, hid] at hkept
      exact absurd rfl hkept
    · rw [if_neg hid]
      exact ⟨row, hget, .refl row⟩

theorem run_keeps_origin (ops : List Operation) (hget : s.rows.get? id = some row)
    (hkept : (.remove id, .truth true) ∉ s.history ops) :
    ∃ row', (s.run ops).rows.get? id = some row' ∧ Resource.SameOrigin row row' := by
  induction ops generalizing s row with
  | nil => exact ⟨row, hget, .refl row⟩
  | cons op ops ih =>
    obtain ⟨hstep, hrest⟩ := not_or.1 fun h => hkept (List.mem_cons.2 h)
    obtain ⟨mid, hmid, hsame⟩ := step_keeps_origin op hget (Ne.symm hstep)
    obtain ⟨row', hrow', hsame'⟩ := ih hmid hrest
    exact ⟨row', hrow', hsame.trans hsame'⟩

/-- Of two moments of a run between which the row of an identifier was not removed, the second finds a row
under the identifier if the first does, and it has the identifier, the tenant and the time of creation of the
first. -/
theorem origin_fixed_until_removed (before between : List Operation)
    (hget : (empty.run before).rows.get? id = some row)
    (hkept : (.remove id, .truth true) ∉ (empty.run before).history between) :
    row.id = id ∧ ∃ row', ((empty.run before).run between).rows.get? id = some row' ∧
      row'.id = row.id ∧ row'.tenantId = row.tenantId ∧ row'.createdAt = row.createdAt := by
  have hfirst : (empty.run before).rows.Consistent := run_consistent .empty before
  have hsecond : ((empty.run before).run between).rows.Consistent := run_consistent hfirst between
  obtain ⟨row', hget', hsame⟩ := run_keeps_origin between hget hkept
  have hid : row.id = id := hfirst.own_id id row hget
  have hid' : row'.id = id := hsecond.own_id id row' hget'
  exact ⟨hid, row', hget', hid'.trans hid.symm, hsame.tenantId, hsame.createdAt⟩

-- Row 3 of the sample is saved for another tenant at another time and fails to be taken away while the store
-- cannot be reached; row 4 is removed.
def sampleChanges : List Operation :=
  let taken := sampleRow 3 9 "Taken" "z"
  [.save { taken with createdAt := { taken.createdAt with second := 30, second_lt := by decide } },
   .remove ⟨⟨4⟩⟩, .setAvailable false, .remove ⟨⟨3⟩⟩, .setAvailable true]

theorem origin_fixed_until_removed_sample :
    (empty.run sampleRun).rows.get? ⟨⟨3⟩⟩ = some (sampleRow 3 7 "Own" "a") ∧
    (.remove ⟨⟨3⟩⟩, .truth true) ∉ (empty.run sampleRun).history sampleChanges ∧
    ∃ row', ((empty.run sampleRun).run sampleChanges).rows.get? ⟨⟨3⟩⟩ = some row' ∧ row'.id = ⟨⟨3⟩⟩ ∧
      row'.tenantId = ⟨⟨7⟩⟩ ∧ row'.createdAt = (sampleRow 3 7 "Own" "a").createdAt := by
  have hget : (empty.run sampleRun).rows.get? ⟨⟨3⟩⟩ = some (sampleRow 3 7 "Own" "a") := by decide
  have hkept : (.remove ⟨⟨3⟩⟩, .truth true) ∉ (empty.run sampleRun).history sampleChanges := by
    simp [sampleChanges, history, step, setAvailable, remove, ensureAvailable, changeOf, bind, Except.bind]
  exact ⟨hget, hkept, (origin_fixed_until_removed sampleRun sampleChanges hget hkept).2⟩

end Store

end ResourceCatalog
