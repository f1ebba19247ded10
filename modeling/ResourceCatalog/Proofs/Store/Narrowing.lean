import ResourceCatalog.Proofs.Store.Listing

/-!
# Narrower lists

A list of what a tenant owns, or a list that is searched, leaves rows of the wider list out and keeps the others in
their order: what is asked for is a subset, and a row's place depends on the row alone.
-/

namespace ResourceCatalog

namespace Rows

variable (rows : Rows) (scope : ListScope) (tenant : TenantId) (search : Option SearchTerm)

theorem wanted_own_subset : rows.wanted .own tenant search ⊆ rows.wanted .visible tenant search := by
  rintro r ⟨hmem, hshows, hsearch⟩
  cases hshows with
  | own htenant => exact ⟨hmem, .own htenant, hsearch⟩

theorem wanted_search_subset : rows.wanted scope tenant search ⊆ rows.wanted scope tenant none := by
  rintro r ⟨hmem, hshows, -⟩
  exact ⟨hmem, hshows, nofun⟩

end Rows

namespace Store

variable {s : Store}

/-- Behind the pages of every query stands one list. That of a tenant's own rows is a sublist of that of all rows
that the tenant sees, and with a search it is a sublist of that without one. -/
theorem narrower_lists_are_sublists (hs : s.Reachable) (tenant : TenantId) (o : ResourceOrdering) :
    ∃ full : ListScope → Option SearchTerm → List Resource,
      (∀ scope search, o.Arranges (s.rows.wanted scope tenant search) (full scope search) ∧
        s.Serves scope tenant search o (full scope search)) ∧
      (∀ search, (full .own search).Sublist (full .visible search)) ∧
      ∀ scope search, (full scope search).Sublist (full scope none) := by
  have hexists : ∀ scope search, ∃ l, o.Arranges (s.rows.wanted scope tenant search) l := fun scope search =>
    hs.consistent.exists_arranges o fun r hr => hr.1
  choose full hfull using hexists
  refine ⟨full, ?_, ?_, ?_⟩
  · intro scope search
    exact ⟨hfull scope search, serves_of_arranges hs.consistent (hfull scope search)⟩
  · intro search
    exact (hfull .own search).sublist_of_subset (hfull .visible search) (s.rows.wanted_own_subset tenant search)
  · intro scope search
    exact (hfull scope search).sublist_of_subset (hfull scope none) (s.rows.wanted_search_subset scope tenant search)

/-- Tenant 7 sees three rows, of which it owns two. -/
theorem narrower_lists_are_sublists_sample :
    sample.Reachable ∧
    ∃ full : ListScope → Option SearchTerm → List Resource,
      (∀ scope search, ResourceOrdering.Arranges ⟨.title, .desc⟩ (sample.rows.wanted scope ⟨⟨7⟩⟩ search)
          (full scope search) ∧
        sample.Serves scope ⟨⟨7⟩⟩ search ⟨.title, .desc⟩ (full scope search)) ∧
      (∀ search, (full .own search).Sublist (full .visible search)) ∧
      (∀ scope search, (full scope search).Sublist (full scope none)) ∧
      (full .own none).length = 2 ∧ (full .visible none).length = 3 := by
  have hreach : sample.Reachable := ⟨sampleRun, rfl⟩
  obtain ⟨full, hfull, hown, hsearch⟩ := narrower_lists_are_sublists hreach ⟨⟨7⟩⟩ ⟨.title, .desc⟩
  have hlength : ∀ scope, (full scope none).length = (selected sample.rows scope ⟨⟨7⟩⟩ sampleLink).length := by
    intro scope
    rw [(hfull scope none).1.unique (sort_selected_arranges hreach.consistent _ scope _ sampleLink)]
    exact List.length_mergeSort _
  exact ⟨hreach, full, hfull, hown, hsearch, hlength .own, hlength .visible⟩

end Store

end ResourceCatalog
