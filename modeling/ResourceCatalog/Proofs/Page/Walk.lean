import ResourceCatalog.Page.Walk
import ResourceCatalog.Proofs.Page.Slice

/-!
# Walks over slices

Where every page is a slice of one list, a walk ends and fetches the list from its first page on: the
pages fit together, and page numbers do not run out before the list does.
-/

namespace ResourceCatalog

theorem PageLink.next_offset {link : PageLink} (h : link.page < maxPage) :
    link.next.offset = link.offset + link.limit := by
  have hpage : link.next.page = link.page + 1 := Nat.min_eq_left h
  show link.next.page * link.pageSize = link.page * link.pageSize + link.pageSize
  rw [hpage, Nat.succ_mul]

variable {α : Type}

/-- A page that another one follows, and the list from the next page on, are the list from this page on. -/
theorem PageData.IsSlice.data_append {link : PageLink} {l : List α} {p : PageData α} (h : p.IsSlice link l)
    (hpage : link.page < maxPage) : p.data ++ l.drop link.next.offset = l.drop link.offset := by
  rw [h.data_eq, PageLink.next_offset hpage, ← List.drop_drop, List.take_append_drop]

/-! ## One page of a walk -/

section Page

variable {fetch : PageLink → Outcome (PageData α)} {link : PageLink} {p : PageData α}

theorem walk_eq_of_last (hp : fetch link = .ok p) (hlast : p.hasNext = false) :
    walk fetch link = .ok (some ⟨[p.data], link⟩) := by
  rw [walk, hp]
  simp only [bind, Except.bind, hlast, Bool.false_eq_true, if_false]
  rfl

theorem walk_eq_of_next (hp : fetch link = .ok p) (hnext : p.hasNext = true) (hpage : link.page < maxPage) :
    walk fetch link =
      (walk fetch link.next).map (Option.map fun w => { w with pages := p.data :: w.pages }) := by
  rw [walk, hp]
  simp only [bind, Except.bind, hnext, hpage, if_true, dif_pos]
  cases walk fetch link.next <;> rfl

end Page

/-! ## All pages -/

-- The induction is on the page numbers that are left. The list fits into the pages that can be numbered,
-- so the page with the greatest number never says that another page follows.
theorem walk_of_slices {fetch : PageLink → Outcome (PageData α)} {l : List α} (link : PageLink)
    (hfetch : ∀ k : PageLink, k.search = link.search → k.sortOrder = link.sortOrder →
      ∃ p, fetch k = .ok p ∧ p.IsSlice k l)
    (hend : l.length ≤ (maxPage + 1) * link.pageSize) :
    ∃ w, walk fetch link = .ok (some w) ∧ w.items = l.drop link.offset := by
  induction link using walk.induct with
  | case1 link ih =>
    obtain ⟨p, hp, hslice⟩ := hfetch link rfl rfl
    cases hnext : p.hasNext with
    | false =>
      refine ⟨⟨[p.data], link⟩, walk_eq_of_last hp hnext, ?_⟩
      rw [Walk.items, List.flatten_singleton, hslice.data_eq_drop hnext]
    | true =>
      have hmore : (link.page + 1) * link.pageSize < l.length := hslice.hasNext_eq_true_iff.1 hnext
      have hpage : link.page < maxPage := by
        have hlt := Nat.lt_of_mul_lt_mul_right (Nat.lt_of_lt_of_le hmore hend)
        omega
      obtain ⟨w, hw, hitems⟩ := ih hpage hfetch hend
      refine ⟨{ w with pages := p.data :: w.pages }, ?_, ?_⟩
      · rw [walk_eq_of_next hp hnext hpage, hw]
        rfl
      · show p.data ++ w.items = l.drop link.offset
        rw [hitems, hslice.data_append hpage]

end ResourceCatalog
