import ResourceCatalog.Proofs.Store.Listing
import ResourceCatalog.Proofs.Store.Lookup

/-!
# Saving and removing once more

Doing the same thing twice is doing it once, and removing what was new undoes the save. A row is not in its own
way: it can be saved over itself because no other row has its natural key.
-/

namespace ResourceCatalog.Store

variable {s s' : Store} {r row : Resource} {id : ResourceId}

/-! ## Saving again -/

theorem stored_eq_self {rows : Rows} (hget : rows.get? row.id = some row) : stored rows row = row := by
  rw [stored, hget]

theorem stored_stored {rows rows' : Rows} (hget : rows'.get? r.id = some (stored rows r)) :
    stored rows' r = stored rows r := by
  rw [stored, hget]
  unfold stored
  cases rows.get? r.id <;> rfl

theorem save_eq_self (hs : s.rows.Consistent) (ha : s.available = true) (hget : s.rows.get? id = some row) :
    s.save row = .ok (row, s) := by
  have hid : row.id = id := hs.own_id id row hget
  rw [← hid] at hget
  -- Another row with this natural key would be a second one.
  have hclash : clash? s.rows row = none := by
    apply clash?_eq_none_iff.2
    intro other hother hne
    exact hs.key_unique other.id row.id other row (hs.get?_of_mem hother) hget hne
  apply save_eq_ok_iff.2
  refine ⟨hs.checked row.id row hget, ha, hclash, (stored_eq_self hget).symm, ?_⟩
  rw [Rows.insert_eq_self hget]

theorem save_again (hs : s.rows.Consistent) (hsave : s.save r = .ok (row, s')) :
    s'.save r = .ok (row, s') ∧ s'.save row = .ok (row, s') := by
  obtain ⟨hcheck, ha, -, hstored, -⟩ := save_eq_ok_iff.1 hsave
  have ha' : s'.available = true := by rw [save_available hsave, ha]
  have hget : s'.rows.get? r.id = some row := by rw [save_get? hsave, if_pos rfl]
  have hrow : s'.save row = .ok (row, s') := save_eq_self (save_consistent hs hsave) ha' hget
  refine ⟨?_, hrow⟩
  -- The resource is stored as the same row, so nothing is in its way either.
  obtain ⟨-, -, hclash, -, -⟩ := save_eq_ok_iff.1 hrow
  apply save_eq_ok_iff.2
  refine ⟨hcheck, ha', hclash, ?_, ?_⟩
  · rw [hstored] at hget ⊢
    exact (stored_stored hget).symm
  · rw [Rows.insert_eq_self hget]

/-! ## Removing -/

theorem remove_of_available (ha : s.available = true) (id : ResourceId) :
    s.remove id = .ok (s.rows.contains id, { s with rows := s.rows.erase id }) :=
  remove_eq_ok_iff.2 ⟨ha, rfl, rfl⟩

theorem remove_of_get?_eq_none (ha : s.available = true) (hget : s.rows.get? id = none) :
    s.remove id = .ok (false, s) := by
  rw [remove_of_available ha, Rows.erase_eq_self hget, Rows.contains, hget]
  rfl

theorem remove_of_save (hnew : s.rows.get? r.id = none) (hsave : s.save r = .ok (row, s')) :
    s'.remove r.id = .ok (true, s) := by
  obtain ⟨-, ha, -, -, hs'⟩ := save_eq_ok_iff.1 hsave
  have ha' : s'.available = true := by rw [save_available hsave, ha]
  rw [remove_of_available ha', Rows.contains, save_get? hsave, if_pos rfl, hs', Rows.erase_insert,
    Rows.erase_eq_self hnew]
  rfl

theorem remove_forgets (ha : s.available = true) (id : ResourceId) :
    ∃ removed s', s.remove id = .ok (removed, s') ∧ (removed = true ↔ ∃ row, s.rows.get? id = some row) ∧
      failureKind? (s'.find id) = some .notFound ∧ s'.exists? id = .ok false ∧
      s'.remove id = .ok (false, s') ∧ ∀ other, other ≠ id → s.SameAt s' other := by
  obtain ⟨removed, s', hremove⟩ : ∃ removed s', s.remove id = .ok (removed, s') :=
    ⟨_, _, remove_of_available ha id⟩
  have ha' : s'.available = true := by rw [remove_available hremove, ha]
  have hgone : s'.rows.get? id = none := by rw [remove_get? hremove, if_pos rfl]
  refine ⟨removed, s', hremove, ?_, ?_, ?_, remove_of_get?_eq_none ha' hgone, ?_⟩
  · obtain ⟨-, hremoved, -⟩ := remove_eq_ok_iff.1 hremove
    rw [hremoved]
    exact Rows.contains_eq_true_iff
  · rw [find_of_get?_eq_none ha' hgone]
    rfl
  · rw [exists?_of_available ha', Rows.contains, hgone]
    rfl
  · intro other hne
    exact sameAt_of_remove hremove hne

/-- The laws of saving and removing while the store can be reached. Removing tells whether the row was there, and
afterwards it is not, so that removing again does nothing. Asking whether a row is there tells whether it would be
found. A resource that was saved can be saved again, as it was given or as it was stored, to no effect, and so can
any row. Removing what was new leads back to the store before the save. -/
theorem save_remove_laws (hs : s.Reachable) (ha : s.available = true) :
    (∀ id, ∃ removed s', s.remove id = .ok (removed, s') ∧
      (removed = true ↔ ∃ row, s.rows.get? id = some row) ∧
      failureKind? (s'.find id) = some .notFound ∧ s'.exists? id = .ok false ∧
      s'.remove id = .ok (false, s') ∧ ∀ other, other ≠ id → s.SameAt s' other) ∧
    (∀ id, ∃ there, s.exists? id = .ok there ∧ (there = true ↔ ∃ row, s.find id = .ok row)) ∧
    (∀ r row s', s.save r = .ok (row, s') → s'.save r = .ok (row, s') ∧ s'.save row = .ok (row, s')) ∧
    (∀ id row, s.rows.get? id = some row → s.save row = .ok (row, s)) ∧
    ∀ r row s', s.rows.get? r.id = none → s.save r = .ok (row, s') → s'.remove r.id = .ok (true, s) := by
  refine ⟨remove_forgets ha, ?_, ?_, ?_, ?_⟩
  · intro id
    refine ⟨_, exists?_of_available ha id, ?_⟩
    simp only [Rows.contains_eq_true_iff, find_eq_ok_iff ha]
  · intro r row s' hsave
    exact save_again hs.consistent hsave
  · intro id row hget
    exact save_eq_self hs.consistent ha hget
  · intro r row s' hnew hsave
    exact remove_of_save hnew hsave

-- Row 3 is changed under another tenant's name and the change repeated; a new row is saved and removed.
theorem save_remove_laws_sample :
    sample.Reachable ∧ sample.available = true ∧
    (∃ s', sample.remove ⟨⟨2⟩⟩ = .ok (true, s') ∧ failureKind? (s'.find ⟨⟨2⟩⟩) = some .notFound) ∧
    (∃ s', sample.save (sampleRow 3 9 "Taken" "z") = .ok (sampleRow 3 7 "Taken" "z", s') ∧
      s'.save (sampleRow 3 9 "Taken" "z") = .ok (sampleRow 3 7 "Taken" "z", s')) ∧
    sample.save (sampleRow 4 7 "More" "c") = .ok (sampleRow 4 7 "More" "c", sample) ∧
    ∃ s', sample.save (sampleRow 5 7 "New" "n") = .ok (sampleRow 5 7 "New" "n", s') ∧
      s'.remove ⟨⟨5⟩⟩ = .ok (true, sample) := by
  have hreach : sample.Reachable := ⟨sampleRun, rfl⟩
  have ha : sample.available = true := by decide
  obtain ⟨hremove, -, hagain, hself, hundo⟩ := save_remove_laws hreach ha
  have htake : sample.save (sampleRow 3 9 "Taken" "z") = .ok (sampleRow 3 7 "Taken" "z",
      { sample with rows := sample.rows.insert ⟨⟨3⟩⟩ (sampleRow 3 7 "Taken" "z") }) := by rfl
  have hnew : sample.save (sampleRow 5 7 "New" "n") = .ok (sampleRow 5 7 "New" "n",
      { sample with rows := sample.rows.insert ⟨⟨5⟩⟩ (sampleRow 5 7 "New" "n") }) := by rfl
  obtain ⟨removed, s', hremoved, hthere, hgone, -⟩ := hremove ⟨⟨2⟩⟩
  have htrue : removed = true := hthere.2 ⟨sampleRow 2 0 "Common" "b", by decide⟩
  rw [htrue] at hremoved
  exact ⟨hreach, ha, ⟨s', hremoved, hgone⟩, ⟨_, htake, (hagain _ _ _ htake).1⟩, hself ⟨⟨4⟩⟩ _ (by decide),
    _, hnew, hundo _ _ _ (by decide) hnew⟩

end ResourceCatalog.Store
