import ResourceCatalog.Store.Rows

/-!
# Looking rows up

What storing a row and taking one away do to the lookup by identifier. Because the identifiers stand in
ascending order, the lookup determines the rows.
-/

namespace ResourceCatalog

namespace Entries

theorem Ascending.nodup {l : Entries} (h : Ascending l) : l.Nodup := by
  apply h.imp
  rintro a b hlt rfl
  omega

theorem Ascending.eq_of_fst_eq {l : Entries} (h : Ascending l) {a b : ResourceId × Resource}
    (ha : a ∈ l) (hb : b ∈ l) (hid : a.1 = b.1) : a = b := by
  induction l with
  | nil => cases ha
  | cons entry rest ih =>
    obtain ⟨hhead, htail⟩ := List.pairwise_cons.1 h
    rcases List.mem_cons.1 ha with rfl | ha' <;> rcases List.mem_cons.1 hb with rfl | hb'
    · rfl
    · exact absurd (hhead b hb') (by rw [hid]; omega)
    · exact absurd (hhead a ha') (by rw [hid]; omega)
    · exact ih htail ha' hb'

/-- Storing a row replaces what stands under its identifier and keeps the rest. -/
theorem mem_insert_iff {id : ResourceId} {row : Resource} {l : Entries} (h : Ascending l)
    {e : ResourceId × Resource} : e ∈ insert id row l ↔ e = (id, row) ∨ e ∈ l ∧ e.1 ≠ id := by
  induction l with
  | nil => simp [insert]
  | cons entry rest ih =>
    obtain ⟨hhead, htail⟩ := List.pairwise_cons.1 h
    unfold insert
    split
    · -- Everything in the list comes later, so nothing in it has the identifier.
      rename_i hlt
      have hne : ∀ x ∈ entry :: rest, x.1 ≠ id := by
        intro x hx heq
        have hle : entry.1.rank ≤ x.1.rank := by
          rcases List.mem_cons.1 hx with rfl | hx
          · omega
          · have := hhead x hx
            omega
        rw [heq] at hle
        omega
      rw [List.mem_cons]
      exact ⟨Or.imp_right fun he => ⟨he, hne e he⟩, Or.imp_right And.left⟩
    · split
      · -- The head has the identifier and goes; what follows it comes later.
        rename_i heq
        have hne : ∀ x ∈ rest, x.1 ≠ id := by
          intro x hx hid
          have := hhead x hx
          rw [hid, heq] at this
          omega
        rw [List.mem_cons, List.mem_cons]
        refine ⟨Or.imp_right fun he => ⟨.inr he, hne e he⟩, ?_⟩
        rintro (he | ⟨rfl | he, hid⟩)
        · exact .inl he
        · exact absurd heq.symm hid
        · exact .inr he
      · -- The head stays, and the rest is the induction hypothesis.
        rename_i hne
        rw [List.mem_cons, ih htail, List.mem_cons]
        constructor
        · rintro (rfl | he | ⟨he, hid⟩)
          · exact .inr ⟨.inl rfl, fun h => hne h.symm⟩
          · exact .inl he
          · exact .inr ⟨.inr he, hid⟩
        · rintro (he | ⟨rfl | he, hid⟩)
          · exact .inr (.inl he)
          · exact .inl rfl
          · exact .inr (.inr ⟨he, hid⟩)

/-- What is selected does not change when a row is stored that is not selected, in place of one that is not
selected either. -/
theorem filter_insert {id : ResourceId} {row : Resource} {l : Entries} {p : ResourceId × Resource → Bool}
    (hnew : p (id, row) = false) (hold : ∀ e ∈ l, e.1 = id → p e = false) :
    (insert id row l).filter p = l.filter p := by
  induction l with
  | nil => simp [insert, hnew]
  | cons entry rest ih =>
    unfold insert
    split
    · rw [List.filter_cons_of_neg (by simp [hnew])]
    · split
      · rename_i heq
        have hentry : p entry = false := hold entry List.mem_cons_self heq.symm
        rw [List.filter_cons_of_neg (by simp [hnew]), List.filter_cons_of_neg (by simp [hentry])]
      · rw [List.filter_cons, List.filter_cons, ih fun e he => hold e (List.mem_cons_of_mem _ he)]

end Entries

namespace Rows

variable {rows : Rows} {id : ResourceId} {row : Resource}

theorem get?_eq_some_iff : rows.get? id = some row ↔ (id, row) ∈ rows.entries := by
  unfold get?
  rw [Option.map_eq_some_iff]
  constructor
  · rintro ⟨e, he, rfl⟩
    have hid : e.1 = id := by simpa using List.find?_some he
    exact hid ▸ List.mem_of_find?_eq_some he
  · -- The search finds some entry, and there is only one with this identifier.
    intro hmem
    obtain ⟨e, he⟩ : ∃ e, rows.entries.find? (fun e => e.1 = id) = some e :=
      Option.isSome_iff_exists.1 (List.find?_isSome.2 ⟨_, hmem, by simp⟩)
    have hid : e.1 = id := by simpa using List.find?_some he
    have heq := rows.ascending.eq_of_fst_eq (List.mem_of_find?_eq_some he) hmem hid
    exact ⟨e, he, by rw [heq]⟩

theorem mem_toList_iff : row ∈ rows.toList ↔ ∃ id, rows.get? id = some row := by
  simp only [toList, List.mem_map, get?_eq_some_iff, Prod.exists, exists_eq_right]

theorem contains_eq_true_iff : rows.contains id = true ↔ ∃ row, rows.get? id = some row :=
  Option.isSome_iff_exists

@[simp] theorem get?_empty (id : ResourceId) : empty.get? id = none := rfl

theorem get?_insert (rows : Rows) (id : ResourceId) (row : Resource) (other : ResourceId) :
    (rows.insert id row).get? other = if other = id then some row else rows.get? other := by
  apply Option.ext
  intro r
  rw [get?_eq_some_iff]
  show (other, r) ∈ rows.entries.insert id row ↔ _
  rw [Entries.mem_insert_iff rows.ascending]
  by_cases h : other = id
  · simp [h, eq_comm]
  · simp [h, get?_eq_some_iff]

theorem get?_erase (rows : Rows) (id other : ResourceId) :
    (rows.erase id).get? other = if other = id then none else rows.get? other := by
  apply Option.ext
  intro r
  rw [get?_eq_some_iff]
  show (other, r) ∈ rows.entries.filter (fun e => e.1 ≠ id) ↔ _
  by_cases h : other = id
  · simp [h]
  · simp [h, get?_eq_some_iff]

theorem mem_toList_insert_of_get?_eq_none {r : Resource} (hnew : rows.get? id = none) :
    r ∈ (rows.insert id row).toList ↔ r = row ∨ r ∈ rows.toList := by
  rw [mem_toList_iff, mem_toList_iff]
  constructor
  · rintro ⟨k, hk⟩
    rw [get?_insert] at hk
    by_cases hid : k = id
    · rw [if_pos hid] at hk
      exact .inl (Option.some.inj hk).symm
    · rw [if_neg hid] at hk
      exact .inr ⟨k, hk⟩
  · rintro (rfl | ⟨k, hk⟩)
    · exact ⟨id, by rw [get?_insert, if_pos rfl]⟩
    · refine ⟨k, ?_⟩
      rw [get?_insert, if_neg, hk]
      rintro rfl
      rw [hnew] at hk
      cases hk

theorem filter_toList (rows : Rows) (p : Resource → Bool) :
    rows.toList.filter p = (rows.entries.filter fun e => p e.2).map Prod.snd := List.filter_map

theorem filter_toList_insert {p : Resource → Bool} (hnew : p row = false)
    (hold : ∀ old, rows.get? id = some old → p old = false) :
    (rows.insert id row).toList.filter p = rows.toList.filter p := by
  rw [filter_toList, filter_toList]
  have hfilter : (rows.entries.insert id row).filter (fun e => p e.2) = rows.entries.filter fun e => p e.2 := by
    apply Entries.filter_insert hnew
    rintro ⟨k, old⟩ he rfl
    exact hold old (get?_eq_some_iff.2 he)
  exact congrArg (List.map Prod.snd) hfilter

theorem filter_toList_erase {p : Resource → Bool} (hold : ∀ old, rows.get? id = some old → p old = false) :
    (rows.erase id).toList.filter p = rows.toList.filter p := by
  rw [filter_toList, filter_toList]
  show ((rows.entries.filter fun e => e.1 ≠ id).filter fun e => p e.2).map Prod.snd = _
  rw [List.filter_filter]
  congr 1
  apply List.filter_congr
  rintro ⟨k, old⟩ he
  by_cases hk : k = id
  · rw [hk] at he
    simp [hk, hold old (get?_eq_some_iff.2 he)]
  · simp [hk]

theorem size_eq_length_toList (rows : Rows) : rows.size = rows.toList.length := by
  simp [size, toList]

/-! ## Rows that look up alike -/

theorem ext_get? {rows rows' : Rows} (h : ∀ id, rows.get? id = rows'.get? id) : rows = rows' := by
  have hmem : ∀ e, e ∈ rows.entries ↔ e ∈ rows'.entries := by
    intro e
    rw [← get?_eq_some_iff, ← get?_eq_some_iff, h]
  have hperm : rows.entries.Perm rows'.entries :=
    (List.perm_ext_iff_of_nodup rows.ascending.nodup rows'.ascending.nodup).2 hmem
  -- The same entries, in ascending order on both sides.
  have hentries : rows.entries = rows'.entries := by
    apply hperm.eq_of_pairwise ?_ rows.ascending rows'.ascending
    intro a b _ _ hab hba
    omega
  cases rows
  cases rows'
  cases hentries
  rfl

theorem insert_comm {a b : ResourceId} (hne : a ≠ b) (rows : Rows) (ra rb : Resource) :
    (rows.insert a ra).insert b rb = (rows.insert b rb).insert a ra := by
  apply ext_get?
  intro k
  simp only [get?_insert]
  by_cases ha : k = a
  · rw [if_pos ha, if_neg (fun hb => hne (ha.symm.trans hb)), if_pos ha]
  · rw [if_neg ha, if_neg ha]

theorem insert_eq_self (h : rows.get? id = some row) : rows.insert id row = rows := by
  apply ext_get?
  intro k
  rw [get?_insert]
  by_cases hk : k = id
  · rw [if_pos hk, hk, h]
  · rw [if_neg hk]

theorem erase_eq_self (h : rows.get? id = none) : rows.erase id = rows := by
  apply ext_get?
  intro k
  rw [get?_erase]
  by_cases hk : k = id
  · rw [if_pos hk, hk, h]
  · rw [if_neg hk]

theorem erase_insert (rows : Rows) (id : ResourceId) (row : Resource) :
    (rows.insert id row).erase id = rows.erase id := by
  apply ext_get?
  intro k
  rw [get?_erase, get?_erase, get?_insert]
  by_cases hk : k = id
  · rw [if_pos hk, if_pos hk]
  · rw [if_neg hk, if_neg hk, if_neg hk]

end Rows

end ResourceCatalog
