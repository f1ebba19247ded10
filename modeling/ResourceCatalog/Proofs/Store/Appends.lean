import ResourceCatalog.Proofs.Page.Growth
import ResourceCatalog.Proofs.Store.Listing

/-!
# Pages of a growing list

Between the pages of a walk through a tenant's own list, rows may be added that come behind all rows of the
list. The list of each state then starts with the list of the state before it, and the pages, each from a
state of its own, fit together to the list of the last state.
-/

namespace ResourceCatalog

namespace Rows

variable {rows : Rows} {tenant : TenantId} {search : Option SearchTerm} {r : Resource}

theorem mem_wanted_own_iff : r ∈ rows.wanted .own tenant search ↔
    r ∈ rows.toList ∧ r.tenantId = tenant ∧ ∀ term, search = some term → r.titleMatches term.chars = true := by
  constructor
  · rintro ⟨hr, htenant | _, hsearch⟩
    exact ⟨hr, htenant, hsearch⟩
  · rintro ⟨hr, htenant, hsearch⟩
    exact ⟨hr, .own htenant, hsearch⟩

end Rows

namespace Store

/-- Saves under identifiers that had no row lead from one store to the other, and every new row of the
tenant's list comes behind all rows that the list has at the first store. -/
inductive GrowsTo (o : ResourceOrdering) (tenant : TenantId) (search : Option SearchTerm) (s : Store) :
    Store → Prop where
  | refl : GrowsTo o tenant search s s
  | save {t t' : Store} {r row : Resource} (hgrows : GrowsTo o tenant search s t)
      (hnew : t.rows.get? r.id = none) (hsave : t.save r = .ok (row, t'))
      (hbehind : row ∈ t'.rows.wanted .own tenant search →
        ∀ x ∈ s.rows.wanted .own tenant search, o.compare row x = .gt) :
      GrowsTo o tenant search s t'

namespace GrowsTo

variable {o : ResourceOrdering} {tenant : TenantId} {search : Option SearchTerm} {s t : Store}

theorem available (h : GrowsTo o tenant search s t) : t.available = s.available := by
  induction h with
  | refl => rfl
  | save hgrows hnew hsave hbehind ih =>
    rw [save_available hsave]
    exact ih

theorem consistent (h : GrowsTo o tenant search s t) (hs : s.rows.Consistent) : t.rows.Consistent := by
  induction h with
  | refl => exact hs
  | save hgrows hnew hsave hbehind ih => exact save_consistent ih hsave

theorem wanted_subset (h : GrowsTo o tenant search s t) :
    s.rows.wanted .own tenant search ⊆ t.rows.wanted .own tenant search := by
  induction h with
  | refl => exact Set.Subset.refl _
  | save hgrows hnew hsave hbehind ih =>
    obtain ⟨-, -, -, -, rfl⟩ := save_eq_ok_iff.1 hsave
    intro x hx
    obtain ⟨hmem, hfits⟩ := Rows.mem_wanted_own_iff.1 (ih hx)
    exact Rows.mem_wanted_own_iff.2 ⟨(Rows.mem_toList_insert_of_get?_eq_none hnew).2 (.inr hmem), hfits⟩

theorem compare_eq_lt (h : GrowsTo o tenant search s t) {r : Resource}
    (hr : r ∈ t.rows.wanted .own tenant search) (hnot : r ∉ s.rows.wanted .own tenant search) {x : Resource}
    (hx : x ∈ s.rows.wanted .own tenant search) : o.compare x r = .lt := by
  induction h with
  | refl => exact absurd hr hnot
  | save hgrows hnew hsave hbehind ih =>
    obtain ⟨-, -, -, -, rfl⟩ := save_eq_ok_iff.1 hsave
    obtain ⟨hmem, hfits⟩ := Rows.mem_wanted_own_iff.1 hr
    rcases (Rows.mem_toList_insert_of_get?_eq_none hnew).1 hmem with rfl | hold
    · exact Std.OrientedCmp.lt_of_gt (hbehind hr x hx)
    · exact ih (Rows.mem_wanted_own_iff.2 ⟨hold, hfits⟩)

theorem list_isPrefix (h : GrowsTo o tenant search s t) {l l' : List Resource}
    (hl : o.Arranges (s.rows.wanted .own tenant search) l)
    (hl' : o.Arranges (t.rows.wanted .own tenant search) l') : l <+: l' :=
  hl.prefix_of_subset hl' h.wanted_subset fun _ hr hnot _ hx => h.compare_eq_lt hr hnot hx

end GrowsTo

/-- Fetches a page from the store of the present moment, and a moment passes. -/
def listOver (states : Nat → Store) (scope : ListScope) (tenant : TenantId) (link : PageLink) :
    StateT Nat Outcome (PageData Resource) := fun moment =>
  ((states moment).list scope tenant link).map fun page => (page, moment + 1)

variable {o : ResourceOrdering} {tenant : TenantId} {search : Option SearchTerm} {k : Nat}
  {states : Nat → Store} {link : PageLink}

theorem consistent_of_growing (hs : (states 0).rows.Consistent)
    (hgrow : ∀ i < k, GrowsTo o tenant search (states i) (states (i + 1))) :
    ∀ i ≤ k, (states i).rows.Consistent := by
  intro i hi
  induction i with
  | zero => exact hs
  | succ i ih => exact (hgrow i hi).consistent (ih (by omega))

theorem available_of_growing (ha : (states 0).available = true)
    (hgrow : ∀ i < k, GrowsTo o tenant search (states i) (states (i + 1))) :
    ∀ i ≤ k, (states i).available = true := by
  intro i hi
  induction i with
  | zero => exact ha
  | succ i ih => exact (hgrow i hi).available.trans (ih (by omega))

-- The lists of all states up to the last, as one function so that each can be compared with the next.
theorem exists_growing_lists (hs : (states 0).rows.Consistent)
    (hgrow : ∀ i < k, GrowsTo o tenant search (states i) (states (i + 1))) :
    ∃ lists : Nat → List Resource,
      (∀ i ≤ k, o.Arranges ((states i).rows.wanted .own tenant search) (lists i)) ∧
      ∀ i < k, lists i <+: lists (i + 1) := by
  have hsome : ∀ i, ∃ l, i ≤ k → o.Arranges ((states i).rows.wanted .own tenant search) l := by
    intro i
    by_cases hi : i ≤ k
    · have hmem : ∀ r ∈ (states i).rows.wanted .own tenant search, r ∈ (states i).rows.toList := fun r hr => hr.1
      obtain ⟨l, hl⟩ := (consistent_of_growing hs hgrow i hi).exists_arranges o hmem
      exact ⟨l, fun _ => hl⟩
    · exact ⟨[], fun h => absurd h hi⟩
  choose lists hlists using hsome
  exact ⟨lists, hlists, fun i hi => (hgrow i hi).list_isPrefix (hlists i (by omega)) (hlists (i + 1) hi)⟩

theorem search_iterate_next (link : PageLink) (i : Nat) :
    (PageLink.next^[i] link).search = link.search ∧ (PageLink.next^[i] link).sortOrder = link.sortOrder := by
  induction i with
  | zero => exact ⟨rfl, rfl⟩
  | succ i ih =>
    rw [Function.iterate_succ_apply']
    exact ih

/-- Pages of a tenant's own list that are fetched one after the other from states between which rows are
added behind the list are answered as long as the store can be reached. Up to the first page that none
follows they are the list of the last state: it has every row once, those of the first state among them. The
walk through all pages fetches just these pages. -/
theorem growing_list_paged_completely (hk : k < 2 ^ 32) (hs : (states 0).Reachable) (hfirst : link.page = 0)
    (ho : ResourceOrdering.ofLink link = .ok o)
    (hgrow : ∀ i < k, GrowsTo o tenant link.search (states i) (states (i + 1))) :
    ((states 0).available = true →
      ∀ i ≤ k, ∃ p, (states i).list .own tenant (PageLink.next^[i] link) = .ok p) ∧
    ∀ pages : Nat → PageData Resource,
      (∀ i ≤ k, (states i).list .own tenant (PageLink.next^[i] link) = .ok (pages i)) →
      (∀ i < k, (pages i).hasNext = true) → (pages k).hasNext = false →
      ∃ items, ((List.range (k + 1)).flatMap fun i => (pages i).data) = items ∧
        o.Arranges ((states k).rows.wanted .own tenant link.search) items ∧
        (∀ r ∈ (states 0).rows.wanted .own tenant link.search, items.count r = 1) ∧
        ∃ w, (walk (listOver states .own tenant) link).run 0 = .ok (some w, k + 1) ∧ w.items = items := by
  have hordering : ∀ i, ResourceOrdering.ofLink (PageLink.next^[i] link) = .ok o := fun i =>
    (ResourceOrdering.ofLink_congr (search_iterate_next link i).2).trans ho
  obtain ⟨lists, hlists, hchain⟩ := exists_growing_lists hs.consistent hgrow
  have hserves : ∀ i ≤ k, (states i).Serves .own tenant link.search o (lists i) := fun i hi =>
    serves_of_arranges (consistent_of_growing hs.consistent hgrow i hi) (hlists i hi)
  constructor
  · intro ha i hi
    exact (hserves i hi).answers _ (search_iterate_next link i).1 (hordering i)
      (available_of_growing ha hgrow i hi)
  · intro pages hpages hmore hlast
    have hmax : k ≤ maxPage := by
      unfold maxPage
      omega
    have hslice : ∀ i ≤ k, (pages i).IsSlice (PageLink.next^[i] link) (lists i) := fun i hi =>
      (hserves i hi).slices _ _ (search_iterate_next link i).1 (hordering i) (hpages i hi)
    have hflat := flatMap_data_of_growing hfirst hmax hchain hslice hmore hlast
    have hfetch : ∀ i ≤ k, (listOver states .own tenant (PageLink.next^[i] link)).run (0 + i) =
        .ok (pages i, 0 + i + 1) := by
      intro i hi
      rw [Nat.zero_add]
      show ((states i).list .own tenant (PageLink.next^[i] link)).map _ = _
      rw [hpages i hi]
      rfl
    have hwalk := run_walk_of_pages (n := 0) (by omega) hfetch hmore hlast
    rw [Nat.zero_add] at hwalk
    refine ⟨lists k, hflat, hlists k (Nat.le_refl k), fun r hr => ?_, _, hwalk, ?_⟩
    · -- What is in the first list stays in all later ones.
      have hmem : r ∈ lists k :=
        (isPrefix_of_growing (Nat.zero_le k) hchain).subset (((hlists 0 (Nat.zero_le k)).mem_iff r).2 hr)
      exact List.count_eq_one_of_mem (hlists k (Nat.le_refl k)).nodup hmem
    · rw [Walk.items, ← List.flatMap_def, hflat]

-- After the first page of tenant 7's two titles, a third is added behind them.
def sampleGrowth : Nat → Store
  | 0 => sample
  | _ => sample.run [.save (sampleRow 5 7 "Pear" "p")]

def sampleFirst : PageLink :=
  { pageSize := 1, page := 0, sortOrder := some ⟨"title", .asc⟩, pageSize_mem := by decide, page_le := by decide }

theorem growing_list_paged_completely_sample :
    (sampleGrowth 0).Reachable ∧ sampleFirst.page = 0 ∧ ResourceOrdering.ofLink sampleFirst = .ok ⟨.title, .asc⟩ ∧
    (∀ i < 2, GrowsTo ⟨.title, .asc⟩ ⟨⟨7⟩⟩ none (sampleGrowth i) (sampleGrowth (i + 1))) ∧
    ∃ pages : Nat → PageData Resource,
      (∀ i ≤ 2, (sampleGrowth i).list .own ⟨⟨7⟩⟩ (PageLink.next^[i] sampleFirst) = .ok (pages i)) ∧
      (∀ i < 2, (pages i).hasNext = true) ∧ (pages 2).hasNext = false ∧
      ∃ items, ((List.range 3).flatMap fun i => (pages i).data) = items ∧
        ResourceOrdering.Arranges ⟨.title, .asc⟩ ((sampleGrowth 2).rows.wanted .own ⟨⟨7⟩⟩ none) items ∧
        (∀ r ∈ sample.rows.wanted .own ⟨⟨7⟩⟩ none, items.count r = 1) ∧
        ∃ w, (walk (listOver sampleGrowth .own ⟨⟨7⟩⟩) sampleFirst).run 0 = .ok (some w, 3) ∧ w.items = items := by
  have hreach : (sampleGrowth 0).Reachable := ⟨sampleRun, rfl⟩
  have horder : ResourceOrdering.ofLink sampleFirst = .ok ⟨.title, .asc⟩ := by rfl
  have hgrow : ∀ i < 2, GrowsTo ⟨.title, .asc⟩ ⟨⟨7⟩⟩ none (sampleGrowth i) (sampleGrowth (i + 1)) := by
    intro i hi
    obtain rfl | rfl : i = 0 ∨ i = 1 := by omega
    · have hsave : sample.save (sampleRow 5 7 "Pear" "p") = .ok (sampleRow 5 7 "Pear" "p", sampleGrowth 1) := by rfl
      have hbehind : ∀ x ∈ sample.rows.toList, x.tenantId = ⟨⟨7⟩⟩ →
          ResourceOrdering.compare ⟨.title, .asc⟩ (sampleRow 5 7 "Pear" "p") x = .gt := by decide
      refine .save .refl (by decide) hsave fun _ x hx => ?_
      obtain ⟨hmem, howner, -⟩ := Rows.mem_wanted_own_iff.1 hx
      exact hbehind x hmem howner
    · exact .refl
  have hpages : ∀ i ≤ 2, (sampleGrowth i).list .own ⟨⟨7⟩⟩ (PageLink.next^[i] sampleFirst) =
      .ok ((sampleGrowth i).listed ⟨.title, .asc⟩ .own ⟨⟨7⟩⟩ (PageLink.next^[i] sampleFirst)) := by
    intro i hi
    apply list_eq_listed
    · exact available_of_growing (by decide) hgrow i hi
    · exact (ResourceOrdering.ofLink_congr (search_iterate_next sampleFirst i).2).trans horder
  have hmore : ∀ i < 2, ((sampleGrowth i).listed ⟨.title, .asc⟩ .own ⟨⟨7⟩⟩
      (PageLink.next^[i] sampleFirst)).hasNext = true := by
    intro i hi
    rw [listed_hasNext]
    obtain rfl | rfl : i = 0 ∨ i = 1 := by omega
    · decide
    · decide
  have hlast : ((sampleGrowth 2).listed ⟨.title, .asc⟩ .own ⟨⟨7⟩⟩
      (PageLink.next^[2] sampleFirst)).hasNext = false := by
    rw [listed_hasNext]
    decide
  exact ⟨hreach, rfl, horder, hgrow, _, hpages, hmore, hlast,
    (growing_list_paged_completely (by decide) hreach rfl horder hgrow).2 _ hpages hmore hlast⟩

end Store

end ResourceCatalog
