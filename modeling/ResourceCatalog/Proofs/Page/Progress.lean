import Mathlib.Data.List.Nodup
import ResourceCatalog.Proofs.Page.Growth

/-!
# From page to page

A page that says that another one follows leads to the link of that page, as long as page numbers last. The
greatest page number has no successor: behind it a list that goes on is never reached, and a walk would fetch
the page with that number again and again.
-/

namespace ResourceCatalog

open PageData

/-- The link to the page behind the page of `link`, of the same list cut in the same way. -/
structure PageLink.LeadsTo (link following : PageLink) : Prop where
  page : following.page = link.page + 1
  offset : following.offset = link.offset + link.pageSize
  pageSize : following.pageSize = link.pageSize
  search : following.search = link.search
  sortOrder : following.sortOrder = link.sortOrder

namespace PageLink

variable {link : PageLink}

theorem leadsTo_next_iff : link.LeadsTo link.next ↔ link.page < maxPage := by
  constructor
  · intro h
    have hpage : min (link.page + 1) maxPage = link.page + 1 := h.page
    omega
  · intro h
    exact ⟨Nat.min_eq_left h, next_offset h, rfl, rfl, rfl⟩

/-- However far a walk goes, its pages are numbered on until page numbers run out. -/
theorem page_iterate_next (link : PageLink) (i : Nat) : (next^[i] link).page = min (link.page + i) maxPage := by
  induction i with
  | zero => exact (Nat.min_eq_left link.page_le).symm
  | succ i ih =>
    rw [Function.iterate_succ_apply']
    show min ((next^[i] link).page + 1) maxPage = _
    omega

theorem pageSize_iterate_next (link : PageLink) (i : Nat) : (next^[i] link).pageSize = link.pageSize := by
  induction i with
  | zero => rfl
  | succ i ih => rw [Function.iterate_succ_apply', ← ih]; rfl

/-- The pages of a walk are different pages just if page numbers last. -/
theorem nodup_iterate_next_iff (link : PageLink) (k : Nat) :
    ((List.range (k + 1)).map fun i => (next^[i] link).page).Nodup ↔ link.page + k ≤ maxPage := by
  simp only [page_iterate_next]
  constructor
  · -- Of two pages behind the greatest number the second has the number of the first.
    intro h
    by_contra hlt
    have hk : 0 < k := by
      have := link.page_le
      omega
    have hinj := List.inj_on_of_nodup_map h
    have heq : k - 1 = k := hinj (List.mem_range.2 (by omega)) (List.mem_range.2 (by omega)) (by omega)
    omega
  · intro h
    refine List.Nodup.map_on ?_ List.nodup_range
    intro i hi j hj heq
    rw [List.mem_range] at hi hj
    omega

end PageLink

variable {α : Type}

theorem PageData.ofLink_hasNext_iff {data : List α} {total : Nat} {link : PageLink} :
    (ofLink data total link).hasNext = true ↔ (link.page + 1) * link.pageSize < total := by
  show decide (link.page + 1 < ceilDiv total link.pageSize) = true ↔ _
  rw [decide_eq_true_iff, lt_ceilDiv_iff link.pageSize_mem.1]

/-- The page with the greatest number says that another one follows just if the list goes on behind all pages
that have numbers. -/
theorem page_lt_of_hasNext_iff (data : List α) (total : Nat) (link : PageLink) :
    ((ofLink data total link).hasNext = true → link.page < maxPage) ↔
      link.page < maxPage ∨ total ≤ 2 ^ 32 * link.pageSize := by
  rw [ofLink_hasNext_iff]
  rcases Nat.lt_or_eq_of_le link.page_le with hlt | heq
  · exact ⟨fun _ => .inl hlt, fun _ _ => hlt⟩
  · have hcount : link.page + 1 = 2 ^ 32 := by
      rw [heq]
      rfl
    rw [hcount]
    omega

/-- A page that says that another one follows leads to it just if its number is not the greatest one or the
list ends within the pages that have numbers. A walk that goes on for as long as pages say so visits
different pages just if this holds at each of its steps. -/
theorem next_leadsTo_iff (link : PageLink) :
    (∀ (data : List α) (total : Nat),
      ((ofLink data total link).hasNext = true → link.LeadsTo link.next) ↔
        link.page < maxPage ∨ total ≤ 2 ^ 32 * link.pageSize) ∧
    ∀ (k : Nat) (data : Nat → List α) (total : Nat → Nat),
      (∀ i < k, (ofLink (data i) (total i) (PageLink.next^[i] link)).hasNext = true) →
      (((List.range (k + 1)).map fun i => (PageLink.next^[i] link).page).Nodup ↔
        ∀ i < k, (PageLink.next^[i] link).page < maxPage ∨ total i ≤ 2 ^ 32 * link.pageSize) := by
  constructor
  · intro data total
    rw [PageLink.leadsTo_next_iff, page_lt_of_hasNext_iff]
  · intro k data total hmore
    have hstep : ∀ i < k, ((PageLink.next^[i] link).page < maxPage ∨ total i ≤ 2 ^ 32 * link.pageSize) ↔
        link.page + i < maxPage := by
      intro i hi
      have hlt := page_lt_of_hasNext_iff (data i) (total i) (PageLink.next^[i] link)
      rw [forall_prop_of_true (hmore i hi), PageLink.pageSize_iterate_next] at hlt
      rw [← hlt, PageLink.page_iterate_next]
      omega
    rw [PageLink.nodup_iterate_next_iff]
    constructor
    · intro hle i hi
      exact (hstep i hi).2 (by omega)
    · intro hall
      rcases Nat.eq_zero_or_pos k with rfl | hk
      · exact link.page_le
      · have hlast := (hstep (k - 1) (by omega)).1 (hall (k - 1) (by omega))
        omega

/-- The link to the page with the greatest number, of three items a page. -/
def greatestLink : PageLink :=
  { pageSize := 3, page := maxPage, pageSize_mem := by decide, page_le := Nat.le_refl _ }

/-- Of a list with one item more than fits the pages that have numbers, the last of these pages says that another
one follows, and leads back to itself. -/
theorem greatest_page_leads_to_itself :
    (ofLink [(), (), ()] (2 ^ 32 * 3 + 1) greatestLink).hasNext = true ∧ greatestLink.next = greatestLink ∧
      ¬greatestLink.LeadsTo greatestLink.next := by
  refine ⟨by decide, by decide, fun h => ?_⟩
  exact absurd (PageLink.leadsTo_next_iff.1 h) (Nat.lt_irrefl _)

end ResourceCatalog
