import ResourceCatalog.Proofs.Json.Reader
import ResourceCatalog.Proofs.Json.Text
import ResourceCatalog.Proofs.Page.Existence

/-!
# Reading back pages

A page that passes the checks of the totals is read back from what is written of it, with its items read back. Every
slice of a list passes them, wherever in the list it lies; of other pages some do too.
-/

namespace ResourceCatalog.PageData

open Json (ReadsBack Recovers foldMembers foldMembers_field)

variable {α : Type} {link : PageLink} {l : List α} {p : PageData α}

/-! ## Slices -/

theorem IsSlice.isPage (h : p.IsSlice link l) : p.IsPage link.limit link.page := by
  have hpos : 0 < link.pageSize := link.pageSize_mem.1
  refine ⟨hpos, h.totalElements ▸ h.totalPages, ?_, ?_⟩
  · rw [h.hasNext_eq_true_iff, h.totalPages, ← ceilDiv_eq _ hpos, lt_ceilDiv_iff hpos]
  · rw [h.data_eq, List.length_take, List.length_drop, h.totalElements]
    rfl

/-- The checks look at the number of items only. -/
theorem checked_map {β : Type} (f : α → β) (h : p.checked = .ok p) : (p.map f).checked = .ok (p.map f) := by
  rw [checked_eq_ok_iff] at h ⊢
  simpa only [map, List.length_map] using h

theorem totalPages_le_of_checked (h : p.checked = .ok p) : p.totalPages ≤ p.totalElements :=
  (checked_eq_ok_iff.1 h).2.2.1

/-! ## JSON -/

variable {item : Json.Reader α} {write : α → Json.Value} {back : α → α}

theorem isWhole_json (h : ReadsBack item write back) (p : PageData α) : (p.json write).tree.isWhole = true := by
  show (Json.wholeItems (Json.itemTrees (p.data.map write)) && true) = true
  rw [h.wholeItems_map, Bool.and_true]

theorem foldMembers_json (h : ReadsBack item write back) (hpages : p.totalPages < Word.size64)
    (helements : p.totalElements < Word.size64) :
    foldMembers (Fields.take item) {} (Json.memberTrees [("data", .list (p.data.map write)),
      ("totalPages", .integer p.totalPages), ("totalElements", .integer p.totalElements),
      ("hasNext", .truth p.hasNext)]) =
    .ok ⟨some (p.data.map back), some p.totalPages, some p.totalElements, some p.hasNext⟩ := by
  refine Eq.trans (foldMembers_field rfl (h.list.read_tree p.data)) ?_
  refine Eq.trans (foldMembers_field rfl (Json.readWord64_ofInt hpages)) ?_
  refine Eq.trans (foldMembers_field rfl (Json.readWord64_ofInt helements)) ?_
  refine Eq.trans (foldMembers_field (a := p.hasNext) rfl rfl) ?_
  rfl

theorem read_eq_ok_iff {tree : Json.Tree} :
    read item tree = .ok p ↔ readUnchecked item tree = .ok p ∧ p.checked = .ok p := by
  unfold read
  cases hread : readUnchecked item tree with
  | error e => simp [bind, Except.bind]
  | ok q =>
    cases hchecked : q.checked with
    | error e =>
      simp only [bind, Except.bind, hchecked, Except.ok.injEq]
      constructor
      · intro h
        cases h
      · rintro ⟨rfl, h⟩
        rw [hchecked] at h
        cases h
    | ok r =>
      simp only [bind, Except.bind, hchecked, Except.ok.injEq]
      obtain rfl := checked_eq hchecked
      exact ⟨fun h => ⟨h, h ▸ hchecked⟩, And.left⟩

theorem read_tree (h : ReadsBack item write back) (hchecked : p.checked = .ok p)
    (htotal : p.totalElements < Word.size64) : read item (p.json write).tree = .ok (p.map back) := by
  have hpages := Nat.lt_of_le_of_lt (totalPages_le_of_checked hchecked) htotal
  refine read_eq_ok_iff.2 ⟨?_, checked_map back hchecked⟩
  show (foldMembers (Fields.take item) {} _ >>= Fields.finish) = _
  rw [foldMembers_json h hpages htotal]
  rfl

theorem decode_json (h : ReadsBack item write back) (hchecked : p.checked = .ok p)
    (htotal : p.totalElements < Word.size64) : Json.decode (read item) (p.json write).compact = .ok (p.map back) :=
  (Json.decode_compact _ (isWhole_json h p)).trans (read_tree h hchecked htotal)

/-! ## What is accepted -/

/-- Of the pages that are written, reading accepts all that some list has. An accepted page is one of them
just if its totals fit its items beyond the checks. -/
theorem read_canExist_iff (item : Json.Reader α) (tree : Json.Tree) (p : PageData α) :
    read item tree = .ok p ∧ p.TotalsFit ↔ readUnchecked item tree = .ok p ∧ p.CanExist := by
  rw [read_eq_ok_iff, canExist_iff, and_assoc]

/-- Two texts that are accepted for pages that no list has: the only page of a list, which another one is
said to follow, and a page of a list of five items on four pages. -/
theorem accepts_impossible_pages :
    (∃ p, Json.decode (read Json.readString)
        "\x7b\"data\":[\"a\"],\"totalPages\":1,\"totalElements\":1,\"hasNext\":true\x7d" = .ok p ∧ ¬p.CanExist) ∧
      ∃ p, Json.decode (read Json.readString)
        "\x7b\"data\":[],\"totalPages\":4,\"totalElements\":5,\"hasNext\":false\x7d" = .ok p ∧ ¬p.CanExist := by
  have hfollowed : (json .text (⟨["a"], 1, 1, true⟩ : PageData String)).compact =
      "\x7b\"data\":[\"a\"],\"totalPages\":1,\"totalElements\":1,\"hasNext\":true\x7d" := by
    rfl
  have hbehind : (json .text (⟨[], 4, 5, false⟩ : PageData String)).compact =
      "\x7b\"data\":[],\"totalPages\":4,\"totalElements\":5,\"hasNext\":false\x7d" := by
    rfl
  rw [← hfollowed, ← hbehind]
  refine ⟨⟨_, decode_json Recovers.string rfl (by decide), fun h => ?_⟩,
    ⟨_, decode_json Recovers.string rfl (by decide), fun h => ?_⟩⟩
  · have hmore : 1 < 1 := (canExist_iff.1 h).2.followed rfl
    exact absurd hmore (Nat.lt_irrefl 1)
  · -- Four pages of two items hold eight, and pages of two items are three.
    have hsize : 5 ⌈/⌉ (5 ⌈/⌉ 4) = 4 := (canExist_iff.1 h).2.beyond rfl rfl
    exact absurd hsize (by decide)

end ResourceCatalog.PageData
