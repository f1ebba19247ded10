import Mathlib.Logic.Function.Iterate
import ResourceCatalog.Proofs.Page.Walk

/-!
# Walks over growing lists

A list that grows at its end while its pages are fetched one after the other. A page that another one follows
is full, so what is appended later never shows on it, and the pages fit together to the last list.
-/

namespace ResourceCatalog

theorem PageLink.iterate_next (link : PageLink) {i : Nat} (h : link.page + i ≤ maxPage) :
    next^[i] link = { link with page := link.page + i, page_le := h } := by
  induction i with
  | zero => rfl
  | succ i ih =>
    rw [Function.iterate_succ_apply', ih (by omega)]
    simp only [next, mk.injEq, true_and, and_true]
    omega

variable {α : Type}

theorem take_drop_of_isPrefix {l l' : List α} {a b : Nat} (h : l <+: l') (hab : a + b ≤ l.length) :
    (l.drop a).take b = (l'.drop a).take b := by
  obtain ⟨t, rfl⟩ := h
  have hb : b ≤ (l.drop a).length := by
    rw [List.length_drop]
    omega
  rw [List.drop_append_of_le_length (by omega), List.take_append_of_le_length hb]

theorem isPrefix_of_growing {lists : Nat → List α} {i k : Nat} (hik : i ≤ k)
    (hgrow : ∀ j < k, lists j <+: lists (j + 1)) : lists i <+: lists k := by
  induction hik with
  | refl => exact List.prefix_refl _
  | step hle ih =>
    exact (ih fun j hj => hgrow j (Nat.lt_succ_of_lt hj)).trans (hgrow _ (Nat.lt_succ_self _))

section Pages

variable {link : PageLink} {lists : Nat → List α} {pages : Nat → PageData α} {k : Nat}

/-- The pages up to the first that none follows are the last list. -/
theorem flatMap_data_of_growing (hfirst : link.page = 0) (hk : k ≤ maxPage)
    (hgrow : ∀ i < k, lists i <+: lists (i + 1))
    (hslice : ∀ i ≤ k, (pages i).IsSlice (PageLink.next^[i] link) (lists i))
    (hmore : ∀ i < k, (pages i).hasNext = true) (hlast : (pages k).hasNext = false) :
    ((List.range (k + 1)).flatMap fun i => (pages i).data) = lists k := by
  have hlink : ∀ i ≤ k, (PageLink.next^[i] link).page = i ∧ (PageLink.next^[i] link).pageSize = link.pageSize := by
    intro i hi
    rw [link.iterate_next (show link.page + i ≤ maxPage by omega)]
    exact ⟨show link.page + i = i by omega, rfl⟩
  -- The pages before page `j` are the front of the last list, whichever list each was cut from.
  have hfront : ∀ j ≤ k, ((List.range j).flatMap fun i => (pages i).data) = (lists k).take (j * link.pageSize) := by
    intro j hj
    induction j with
    | zero => simp
    | succ j ih =>
      obtain ⟨hpage, hsize⟩ := hlink j (by omega)
      have hlt := (hslice j (by omega)).hasNext_eq_true_iff.1 (hmore j hj)
      rw [hpage, hsize, Nat.add_mul, Nat.one_mul] at hlt
      have hdata : (pages j).data = ((lists k).drop (j * link.pageSize)).take link.pageSize := by
        rw [(hslice j (by omega)).data_eq, PageLink.offset, PageLink.limit, hpage, hsize]
        exact take_drop_of_isPrefix (isPrefix_of_growing (by omega) hgrow) (by omega)
      rw [List.range_succ, List.flatMap_append, ih (by omega), List.flatMap_singleton, hdata, Nat.add_mul,
        Nat.one_mul, List.take_add]
  obtain ⟨hpage, hsize⟩ := hlink k (Nat.le_refl k)
  rw [List.range_succ, List.flatMap_append, hfront k (Nat.le_refl k), List.flatMap_singleton,
    (hslice k (Nat.le_refl k)).data_eq_drop hlast, PageLink.offset, hpage, hsize, List.take_append_drop]

/-- A walk that finds page after page at later and later moments fetches them up to the first that none
follows. -/
theorem run_walk_of_pages {fetch : PageLink → StateT Nat Outcome (PageData α)} {n : Nat}
    (hk : link.page + k ≤ maxPage)
    (hfetch : ∀ i ≤ k, (fetch (PageLink.next^[i] link)).run (n + i) = .ok (pages i, n + i + 1))
    (hmore : ∀ i < k, (pages i).hasNext = true) (hlast : (pages k).hasNext = false) :
    (walk fetch link).run n =
      .ok (some ⟨(List.range (k + 1)).map fun i => (pages i).data, PageLink.next^[k] link⟩, n + k + 1) := by
  induction k generalizing link n pages with
  | zero =>
    have hfetched : (fetch link).run n = .ok (pages 0, n + 1) := hfetch 0 (Nat.le_refl 0)
    rw [walk, StateT.run_bind, hfetched]
    show StateT.run (if (pages 0).hasNext then _ else _) (n + 1) = _
    rw [if_neg (by rw [hlast]; exact Bool.false_ne_true)]
    rfl
  | succ k ih =>
    have hpage : link.page < maxPage := by omega
    have hnext : link.next.page + k ≤ maxPage := by
      show min (link.page + 1) maxPage + k ≤ maxPage
      omega
    have hlater : ∀ i ≤ k, (fetch (PageLink.next^[i] link.next)).run (n + 1 + i) =
        .ok (pages (i + 1), n + 1 + i + 1) := by
      intro i hi
      rw [← Function.iterate_succ_apply, show n + 1 + i = n + (i + 1) by omega]
      exact hfetch (i + 1) (by omega)
    have hrest := ih hnext hlater (fun i hi => hmore (i + 1) (by omega)) hlast
    have hfetched : (fetch link).run n = .ok (pages 0, n + 1) := hfetch 0 (by omega)
    have hdata : ((List.range (k + 1 + 1)).map fun i => (pages i).data) =
        (pages 0).data :: (List.range (k + 1)).map fun i => (pages (i + 1)).data := by
      rw [List.range_succ_eq_map, List.map_cons, List.map_map]
      rfl
    rw [walk, StateT.run_bind, hfetched, hdata, show n + (k + 1) + 1 = n + 1 + k + 1 by omega]
    show StateT.run (if (pages 0).hasNext then _ else _) (n + 1) = _
    rw [if_pos (hmore 0 (by omega)), dif_pos hpage, StateT.run_bind, hrest]
    rfl

end Pages

end ResourceCatalog
