import ResourceCatalog.Proofs.Page.Walk
import ResourceCatalog.Proofs.Resource.Arrangement
import ResourceCatalog.Proofs.Store.Consistency

/-!
# List queries

A list query is about a set of rows: those that it shows to the tenant and whose titles have the text that
is searched for. On consistent rows the set has one arrangement, and every page is a slice of it.
-/

namespace ResourceCatalog

/-- What tells a resource from the others of its tenant. -/
def Resource.typeAndKey (r : Resource) : ResourceType × String := (r.resourceType, r.resourceKey)

theorem Resource.naturalKey_eq_iff {a b : Resource} :
    a.naturalKey = b.naturalKey ↔ a.tenantId = b.tenantId ∧ a.typeAndKey = b.typeAndKey := by
  simp [naturalKey, typeAndKey]

theorem ResourceOrdering.ofLink_congr {k link : PageLink} (h : k.sortOrder = link.sortOrder) :
    ofLink k = ofLink link := by
  rw [ofLink, ofLink, h]

namespace Rows

/-- A list query of a tenant shows the row. -/
inductive Shows (rows : Rows) (tenant : TenantId) : ListScope → Resource → Prop where
  | own {scope : ListScope} {r : Resource} (htenant : r.tenantId = tenant) : Shows rows tenant scope r
  | shared {r : Resource} (hsystem : r.tenantId = .system)
      (hfree : ∀ own ∈ rows.toList, own.tenantId = tenant → own.typeAndKey ≠ r.typeAndKey) :
      Shows rows tenant .visible r

/-- The rows that a list query is about. -/
def wanted (rows : Rows) (scope : ListScope) (tenant : TenantId) (search : Option SearchTerm) : Set Resource :=
  {r | r ∈ rows.toList ∧ rows.Shows tenant scope r ∧
    ∀ term, search = some term → r.titleMatches term.chars = true}

namespace Consistent

variable {rows : Rows}

theorem pairwise_id_ne (h : rows.Consistent) : rows.toList.Pairwise fun a b => a.id ≠ b.id := by
  -- The identifiers of the entries ascend, and every row has that of its entry.
  rw [toList, List.pairwise_map]
  refine List.Pairwise.imp_of_mem ?_ rows.ascending
  intro a b ha hb hlt heq
  rw [h.own_id a.1 a.2 (get?_eq_some_iff.2 ha), h.own_id b.1 b.2 (get?_eq_some_iff.2 hb)] at heq
  rw [heq] at hlt
  exact absurd hlt (Nat.lt_irrefl _)

theorem exists_arranges (h : rows.Consistent) (o : ResourceOrdering) {M : Set Resource}
    (hM : ∀ r ∈ M, r ∈ rows.toList) : ∃ l, o.Arranges M l := by
  classical
  -- Rows are finitely many: sort those of them that are in `M`.
  have harr := o.sort_arranges (h.pairwise_id_ne.filter fun r => r ∈ M)
  refine ⟨_, fun r => (harr.mem_iff r).trans ?_, harr.ascending⟩
  show r ∈ rows.toList.filter (fun r => r ∈ M) ↔ r ∈ M
  rw [List.mem_filter, decide_eq_true_iff]
  exact ⟨And.right, fun hr => ⟨hM r hr, hr⟩⟩

end Consistent

end Rows

namespace Store

variable {rows : Rows} {scope : ListScope} {tenant : TenantId} {link : PageLink} {r : Resource}

theorem covers_eq_true_iff : covers rows scope tenant r = true ↔ rows.Shows tenant scope r := by
  have hreplaced : isReplaced rows tenant r = false ↔
      ∀ own ∈ rows.toList, own.tenantId = tenant → own.typeAndKey ≠ r.typeAndKey := by
    simp [isReplaced, Resource.typeAndKey]
  cases scope with
  | own =>
    simp only [covers, decide_eq_true_iff]
    refine ⟨.own, fun h => ?_⟩
    cases h
    assumption
  | visible =>
    simp only [covers, decide_eq_true_iff, Bool.not_eq_true', hreplaced]
    constructor
    · rintro (htenant | ⟨hsystem, hfree⟩)
      · exact .own htenant
      · exact .shared (of_decide_eq_true hsystem) hfree
    · rintro (htenant | ⟨hsystem, hfree⟩)
      · exact .inl htenant
      · exact .inr ⟨decide_eq_true hsystem, hfree⟩

theorem mem_selected_iff : r ∈ selected rows scope tenant link ↔ r ∈ rows.wanted scope tenant link.search := by
  have hsearch : matchesSearch link r = true ↔
      ∀ term, link.search = some term → r.titleMatches term.chars = true := by
    unfold matchesSearch
    split <;> simp_all
  rw [selected, List.mem_filter, Bool.and_eq_true, covers_eq_true_iff, hsearch]
  rfl

/-- The list that pages are cut from is the arrangement of the rows that the query is about. -/
theorem sort_selected_arranges (h : rows.Consistent) (o : ResourceOrdering) (scope : ListScope)
    (tenant : TenantId) (link : PageLink) :
    o.Arranges (rows.wanted scope tenant link.search) (o.sort (selected rows scope tenant link)) := by
  have hid : (selected rows scope tenant link).Pairwise fun a b => a.id ≠ b.id := h.pairwise_id_ne.filter _
  have harr := o.sort_arranges hid
  exact ⟨fun r => (harr.mem_iff r).trans mem_selected_iff, harr.ascending⟩

variable {s : Store} {o : ResourceOrdering} {l : List Resource}

theorem available_of_list {p : PageData Resource} (h : s.list scope tenant link = .ok p) : s.available = true := by
  unfold list ensureAvailable at h
  by_cases ha : s.available = true
  · exact ha
  · -- Either the sort is refused, or after it the store cannot be reached.
    cases ho : ResourceOrdering.ofLink link <;> simp [ho, ha, bind, Except.bind] at h

/-- The page as it is built from the sorted rows. -/
def listed (s : Store) (o : ResourceOrdering) (scope : ListScope) (tenant : TenantId) (link : PageLink) :
    PageData Resource :=
  let sorted := o.sort (selected s.rows scope tenant link)
  .ofLink (pageOf link sorted) sorted.length link

theorem list_eq_listed (ha : s.available = true) (ho : ResourceOrdering.ofLink link = .ok o) :
    s.list scope tenant link = .ok (s.listed o scope tenant link) := by
  unfold list
  rw [ho, ensureAvailable_of_available ha]
  rfl

theorem listed_hasNext (s : Store) (o : ResourceOrdering) (scope : ListScope) (tenant : TenantId)
    (link : PageLink) : (s.listed o scope tenant link).hasNext =
      decide (link.page + 1 < PageData.ceilDiv (selected s.rows scope tenant link).length link.limit) := by
  rw [← List.length_mergeSort (selected s.rows scope tenant link)]
  rfl

theorem list_isSlice (hs : s.rows.Consistent) (ha : s.available = true)
    (ho : ResourceOrdering.ofLink link = .ok o)
    (hl : o.Arranges (s.rows.wanted scope tenant link.search) l) :
    ∃ p, s.list scope tenant link = .ok p ∧ p.IsSlice link l := by
  rw [hl.unique (sort_selected_arranges hs o scope tenant link)]
  exact ⟨s.listed o scope tenant link, list_eq_listed ha ho, PageData.ofLink_isSlice link _⟩

theorem exists_isSlice_of_list {p : PageData Resource} (h : s.list scope tenant link = .ok p) :
    ∃ l, p.IsSlice link l := by
  have ha := available_of_list h
  cases ho : ResourceOrdering.ofLink link with
  | error e =>
    -- A sort that is refused has no page.
    unfold list at h
    rw [ho] at h
    cases h
  | ok o =>
    rw [list_eq_listed ha ho] at h
    cases h
    exact ⟨_, PageData.ofLink_isSlice link _⟩

/-- The list `l` stands behind all pages of a query: while the store can be reached every page is answered,
every answer is the slice of `l` that its link asks for, and a walk fetches what is left of `l`. -/
structure Serves (s : Store) (scope : ListScope) (tenant : TenantId) (search : Option SearchTerm)
    (o : ResourceOrdering) (l : List Resource) : Prop where
  answers : ∀ link : PageLink, link.search = search → ResourceOrdering.ofLink link = .ok o →
    s.available = true → ∃ p, s.list scope tenant link = .ok p
  slices : ∀ (link : PageLink) (p : PageData Resource), link.search = search →
    ResourceOrdering.ofLink link = .ok o → s.list scope tenant link = .ok p → p.IsSlice link l
  walked : ∀ link : PageLink, link.search = search → ResourceOrdering.ofLink link = .ok o →
    s.available = true → l.length ≤ 2 ^ 32 * link.pageSize →
    ∃ w, walk (s.list scope tenant) link = .ok (some w) ∧ w.items = l.drop link.offset

theorem serves_of_arranges {search : Option SearchTerm} (hs : s.rows.Consistent)
    (hl : o.Arranges (s.rows.wanted scope tenant search) l) : s.Serves scope tenant search o l := by
  refine ⟨?_, ?_, ?_⟩
  · rintro link rfl ho ha
    obtain ⟨p, hp, -⟩ := list_isSlice hs ha ho hl
    exact ⟨p, hp⟩
  · rintro link p rfl ho hp
    obtain ⟨p', hp', hslice⟩ := list_isSlice hs (available_of_list hp) ho hl
    rw [hp] at hp'
    cases hp'
    exact hslice
  · -- A walk changes only the page number, so all its links ask for the same list.
    rintro link rfl ho ha hlength
    apply walk_of_slices link _ hlength
    intro k hsearch hsort
    have hk : ResourceOrdering.ofLink k = .ok o := (ResourceOrdering.ofLink_congr hsort).trans ho
    exact list_isSlice hs ha hk (hsearch ▸ hl)

/-- A list query that can be answered is: the rows that it is about have exactly one arrangement in the
order that the link asks for, and the page is the link's slice of it. -/
theorem list_answers_slice (hs : s.Reachable) (ha : s.available = true) (scope : ListScope) (tenant : TenantId)
    (ho : ResourceOrdering.ofLink link = .ok o) :
    ∃ l, o.Arranges (s.rows.wanted scope tenant link.search) l ∧
      (∀ l', o.Arranges (s.rows.wanted scope tenant link.search) l' → l' = l) ∧
      ∃ p, s.list scope tenant link = .ok p ∧ p.IsSlice link l ∧
        p.totalElements = (s.rows.wanted scope tenant link.search).ncard := by
  have hmem : ∀ r ∈ s.rows.wanted scope tenant link.search, r ∈ s.rows.toList := fun r hr => hr.1
  obtain ⟨l, hl⟩ := hs.consistent.exists_arranges o hmem
  obtain ⟨p, hp, hslice⟩ := list_isSlice hs.consistent ha ho hl
  exact ⟨l, hl, fun l' hl' => hl'.unique hl, p, hp, hslice, hslice.totalElements.trans hl.length_eq_ncard⟩

/-! ## A sample -/

instance : NeZero Id.Uuid.count := ⟨by decide⟩

def sampleRow (id tenant : Fin Id.Uuid.count) (title key : String) : Resource :=
  { id := ⟨⟨id⟩⟩, tenantId := ⟨⟨tenant⟩⟩, title, resourceKey := key, resourceType := .jks,
    createdAt := ⟨⟨2024, 2, 29, by decide, by decide⟩, 12, 0, 0, 0, by decide, by decide, by decide, by decide⟩ }

-- Two rows of the system tenant; tenant 7 replaces the first, and has a row whose change of key fails.
def sampleRun : List Operation :=
  [.save (sampleRow 1 0 "Shared" "a"), .save (sampleRow 2 0 "Common" "b"),
   .save (sampleRow 3 7 "Own" "a"), .save (sampleRow 4 7 "More" "c"), .save (sampleRow 4 0 "More" "a")]

def sample : Store := empty.run sampleRun

def sampleLink : PageLink :=
  { pageSize := 2, page := 1, sortOrder := some ⟨"title", .desc⟩, pageSize_mem := by decide, page_le := by decide }

/-- The second page of two rows that tenant 7 sees, of three by descending title. -/
theorem list_answers_slice_sample :
    sample.Reachable ∧ sample.available = true ∧
    ResourceOrdering.ofLink sampleLink = .ok ⟨.title, .desc⟩ ∧
    ∃ l, ResourceOrdering.Arranges ⟨.title, .desc⟩ (sample.rows.wanted .visible ⟨⟨7⟩⟩ none) l ∧
      (∀ l', ResourceOrdering.Arranges ⟨.title, .desc⟩ (sample.rows.wanted .visible ⟨⟨7⟩⟩ none) l' → l' = l) ∧
      ∃ p, sample.list .visible ⟨⟨7⟩⟩ sampleLink = .ok p ∧ p.IsSlice sampleLink l ∧
        p.totalElements = (sample.rows.wanted .visible ⟨⟨7⟩⟩ none).ncard := by
  have hreach : sample.Reachable := ⟨sampleRun, rfl⟩
  have havail : sample.available = true := by decide
  have horder : ResourceOrdering.ofLink sampleLink = .ok ⟨.title, .desc⟩ := by rfl
  exact ⟨hreach, havail, horder, list_answers_slice hreach havail .visible ⟨⟨7⟩⟩ horder⟩

end Store

end ResourceCatalog
