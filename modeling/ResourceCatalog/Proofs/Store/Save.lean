import ResourceCatalog.Proofs.Store.Listing
import ResourceCatalog.Proofs.Store.Lookup

/-!
# Saving

A resource whose title or key is not given is refused, one whose natural key another row has is in conflict, and
any other is stored. A row keeps its tenant, so the key that counts is the one with the tenant of the row.
-/

namespace ResourceCatalog

namespace Resource

/-- A text that does not count as given: empty, too long, or nothing but blanks. -/
def Unspecified (s : String) : Prop := s.length = 0 ∨ 255 < s.length ∨ ∀ c ∈ s.toList, Text.isBlank c = true

instance (s : String) : Decidable (Unspecified s) :=
  -- By name: an instance that goes through all characters there are would not end.
  have : Decidable (∀ c ∈ s.toList, Text.isBlank c = true) := List.decidableBAll _ s.toList
  inferInstanceAs (Decidable (_ ∨ _ ∨ _))

theorem not_unspecified_iff {s : String} : ¬Unspecified s ↔ Specified s := by
  unfold Unspecified
  constructor
  · intro h
    have hblank : ¬∀ c ∈ s.toList, Text.isBlank c = true := fun hall => h (.inr (.inr hall))
    exact ⟨by omega, by simpa using hblank⟩
  · intro h hbad
    obtain ⟨hlength, c, hc, hblank⟩ := h
    rcases hbad with hempty | hlong | hall
    · omega
    · omega
    · rw [hall c hc] at hblank
      cases hblank

theorem check_eq_ok_iff_not_unspecified {r : Resource} :
    r.check = .ok () ↔ ¬(Unspecified r.title ∨ Unspecified r.resourceKey) := by
  rw [check_eq_ok_iff, not_or, not_unspecified_iff, not_unspecified_iff]

theorem kind_of_check_eq_error {r : Resource} {f : Failure} (h : r.check = .error f) : f.kind = .validation := by
  unfold check at h
  split at h
  · cases h
  · cases h
    rfl

end Resource

namespace Rows

/-- The tenant that a resource is stored for: that of the row under its identifier, if there is one. -/
def ownerOf (rows : Rows) (r : Resource) : TenantId :=
  match rows.get? r.id with
  | some old => old.tenantId
  | none => r.tenantId

/-- Another row has the natural key that the resource would be stored with. -/
def Taken (rows : Rows) (r : Resource) : Prop :=
  ∃ other ∈ rows.toList, other.id ≠ r.id ∧ other.naturalKey = (rows.ownerOf r, r.resourceType, r.resourceKey)

instance (rows : Rows) (r : Resource) : Decidable (rows.Taken r) :=
  inferInstanceAs (Decidable (∃ other ∈ rows.toList, _))

end Rows

namespace Store

variable {s : Store}

theorem stored_naturalKey (rows : Rows) (r : Resource) :
    (stored rows r).naturalKey = (rows.ownerOf r, r.resourceType, r.resourceKey) := by
  unfold stored Rows.ownerOf
  cases rows.get? r.id <;> rfl

theorem clash?_stored_eq_none_iff {rows : Rows} {r : Resource} :
    clash? rows (stored rows r) = none ↔ ¬rows.Taken r := by
  rw [clash?_eq_none_iff, stored_id, stored_naturalKey]
  simp only [Rows.Taken, not_exists, not_and, ne_eq]

theorem exists_save_eq_ok (ha : s.available = true) {r : Resource} (hcheck : r.check = .ok ())
    (hfree : ¬s.rows.Taken r) : ∃ s', s.save r = .ok (stored s.rows r, s') :=
  ⟨_, save_eq_ok_iff.2 ⟨hcheck, ha, clash?_stored_eq_none_iff.2 hfree, rfl, rfl⟩⟩

-- Of several reasons to fail, the resource itself comes first and the rows come last.
theorem failureKind?_save (s : Store) (r : Resource) : failureKind? (s.save r) =
    if Resource.Unspecified r.title ∨ Resource.Unspecified r.resourceKey then some .validation
    else if s.available = true then if s.rows.Taken r then some .conflict else none
    else some .storeUnavailable := by
  cases hcheck : r.check with
  | error f =>
    -- The check decides, whatever else is wrong.
    have hbad : Resource.Unspecified r.title ∨ Resource.Unspecified r.resourceKey := by
      by_contra hgood
      rw [Resource.check_eq_ok_iff_not_unspecified.2 hgood] at hcheck
      cases hcheck
    rw [if_pos hbad, save, hcheck, ← Resource.kind_of_check_eq_error hcheck]
    rfl
  | ok u =>
    rw [if_neg (Resource.check_eq_ok_iff_not_unspecified.1 hcheck)]
    by_cases ha : s.available = true
    · rw [if_pos ha]
      by_cases htaken : s.rows.Taken r
      · -- The search finds some row, and its answer is the conflict with it.
        obtain ⟨other, hother⟩ : ∃ other, clash? s.rows (stored s.rows r) = some other := by
          apply Option.ne_none_iff_exists'.1
          intro hnone
          exact clash?_stored_eq_none_iff.1 hnone htaken
        rw [if_pos htaken, save, hcheck, ensureAvailable_of_available ha]
        simp only [bind, Except.bind, hother]
        rfl
      · obtain ⟨s', hsave⟩ := exists_save_eq_ok ha hcheck htaken
        rw [if_neg htaken, hsave]
        rfl
    · rw [if_neg ha, save, hcheck, ensureAvailable, if_neg ha]
      rfl

/-- What saving does while the store can be reached. It refuses just the resources whose title or key is not
given; of the others it refuses just those whose natural key, with the tenant of the row that is there, another
row has. The rest it stores as they are, but for the tenant and the time of creation of the row that is there. No
other identifier is touched, and a failure touches none. -/
theorem save_outcome (ha : s.available = true) (r : Resource) :
    (failureKind? (s.save r) = some .validation ↔
      Resource.Unspecified r.title ∨ Resource.Unspecified r.resourceKey) ∧
    (¬(Resource.Unspecified r.title ∨ Resource.Unspecified r.resourceKey) →
      (failureKind? (s.save r) = some .conflict ↔ s.rows.Taken r) ∧
      (¬s.rows.Taken r → ∃ row s', s.save r = .ok (row, s') ∧
        (∀ old, s.rows.get? r.id = some old →
          row = { r with tenantId := old.tenantId, createdAt := old.createdAt }) ∧
        (s.rows.get? r.id = none → row = r) ∧
        s'.find r.id = .ok row ∧ ∀ id, id ≠ r.id → s.SameAt s' id)) ∧
    ∀ f, s.save r = .error f → s.step (.save r) = (.failed f, s) := by
  -- As the store can be reached, two reasons to fail are left.
  have hkind := failureKind?_save s r
  rw [if_pos ha] at hkind
  refine ⟨?_, ?_, fun f hf => step_save_of_error hf⟩
  · rw [hkind]
    by_cases hbad : Resource.Unspecified r.title ∨ Resource.Unspecified r.resourceKey
    · simp [hbad]
    · rw [if_neg hbad]
      by_cases htaken : s.rows.Taken r <;> simp [hbad, htaken]
  · intro hgood
    rw [if_neg hgood] at hkind
    refine ⟨?_, fun hfree => ?_⟩
    · rw [hkind]
      by_cases htaken : s.rows.Taken r <;> simp [htaken]
    · obtain ⟨s', hsave⟩ := exists_save_eq_ok ha (Resource.check_eq_ok_iff_not_unspecified.2 hgood) hfree
      refine ⟨stored s.rows r, s', hsave, ?_, ?_, ?_, ?_⟩
      · intro old hold
        rw [stored, hold]
      · intro hnew
        rw [stored, hnew]
      · exact find_of_save hsave
      · intro id hne
        exact sameAt_of_save hsave hne

-- A blank title is refused. Row 4 belongs to tenant 7, whatever tenant it is saved for, and so does the key of
-- row 3. Row 3 itself is changed, and stays tenant 7's.
theorem save_outcome_sample :
    sample.available = true ∧
    failureKind? (sample.save (sampleRow 5 7 " " "n")) = some .validation ∧
    failureKind? (sample.save (sampleRow 4 0 "More" "a")) = some .conflict ∧
    ∃ row s', sample.save (sampleRow 3 9 "Taken" "z") = .ok (row, s') ∧ row = sampleRow 3 7 "Taken" "z" ∧
      s'.find ⟨⟨3⟩⟩ = .ok row ∧ ∀ id, id ≠ ⟨⟨3⟩⟩ → sample.SameAt s' id := by
  have ha : sample.available = true := by decide
  have hblank : Resource.Unspecified (sampleRow 5 7 " " "n").title := by decide
  have hrow : sample.rows.get? ⟨⟨3⟩⟩ = some (sampleRow 3 7 "Own" "a") := by decide
  obtain ⟨hconflict, -⟩ := (save_outcome ha (sampleRow 4 0 "More" "a")).2.1 (by decide)
  obtain ⟨-, hstored⟩ := (save_outcome ha (sampleRow 3 9 "Taken" "z")).2.1 (by decide)
  obtain ⟨row, s', hsave, hold, -, hfind, hothers⟩ := hstored (by decide)
  exact ⟨ha, (save_outcome ha _).1.2 (.inl hblank), hconflict.2 (by decide), row, s', hsave, hold _ hrow, hfind,
    hothers⟩

end Store

end ResourceCatalog
