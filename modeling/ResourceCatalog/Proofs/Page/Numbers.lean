import ResourceCatalog.Proofs.Page.LinkJson

/-!
# The numbers of a link

However a link is made, its page size and its page number are the numbers that it was made of, and these were in
range: numbers out of range are refused, and nothing that is done with a link takes them out of it.
-/

namespace ResourceCatalog.PageLink

/-- A page has 1 to 1000 items, and page numbers have 32 bits. -/
def InRange (pageSize page : Int) : Prop := (1 ≤ pageSize ∧ pageSize ≤ 1000) ∧ 0 ≤ page ∧ page < 2 ^ 32

/-- The link has these numbers, and they are in range. -/
structure HasNumbers (link : PageLink) (pageSize page : Int) : Prop where
  pageSize_eq : (link.pageSize : Int) = pageSize
  page_eq : (link.page : Int) = page
  inRange : InRange pageSize page

theorem hasNumbers (link : PageLink) : link.HasNumbers link.pageSize link.page := by
  obtain ⟨hpos, hle⟩ := link.pageSize_mem
  have hpage := link.page_le
  unfold maxPageSize at hle
  unfold maxPage at hpage
  exact ⟨rfl, rfl, by omega, by omega⟩

variable {link : PageLink}

/-! ## Numbers that nobody has checked -/

theorem hasNumbers_of_ofSizes {pageSize page : Nat} {page_le : page ≤ maxPage}
    (h : ofSizes pageSize page page_le = .ok link) : link.HasNumbers pageSize page := by
  unfold ofSizes at h
  split at h
  · cases h
  split at h
  · cases h
  cases h
  exact hasNumbers _

theorem hasNumbers_of_ofRaw {pageSize page : Int} (h : ofRaw pageSize page = .ok link) :
    link.HasNumbers pageSize page := by
  unfold ofRaw at h
  -- Three refusals, then the page number as it is read, and a last refusal if it is too great.
  split at h
  · cases h
  split at h
  · cases h
  split at h
  · cases h
  split at h
  · have hnumbers := hasNumbers_of_ofSizes h
    rwa [Int.toNat_of_nonneg (by omega), Int.toNat_of_nonneg (by omega)] at hnumbers
  · cases h

theorem kind_of_ofRaw_eq_error {pageSize page : Int} {e : Failure} (h : ofRaw pageSize page = .error e) :
    e.kind = .validation := by
  unfold ofRaw ofSizes at h
  repeat' split at h
  all_goals cases h
  all_goals rfl

theorem exists_ofRaw_eq_ok_iff {pageSize page : Int} :
    (∃ link, ofRaw pageSize page = .ok link) ↔ InRange pageSize page :=
  ⟨fun ⟨_, h⟩ => (hasNumbers_of_ofRaw h).inRange, fun h => ⟨_, ofRaw_eq_ok h.1 h.2⟩⟩

/-! ## Links however they are made -/

/-- The link is made of these numbers. -/
inductive Made : Int → Int → PageLink → Prop
  | ofSizes {pageSize page : Nat} {page_le : page ≤ maxPage} {link : PageLink}
      (h : PageLink.ofSizes pageSize page page_le = .ok link) : Made pageSize page link
  | ofRaw {pageSize page : Int} {link : PageLink} (h : PageLink.ofRaw pageSize page = .ok link) :
      Made pageSize page link
  | read {tree : Json.Tree} {params : Params} {link : PageLink} (hparams : readParams tree = .ok params)
      (h : PageLink.read tree = .ok link) : Made params.pageSize params.page link
  | withSearch {pageSize page : Int} {link : PageLink} (h : Made pageSize page link) (s : String) :
      Made pageSize page (link.withSearch s)
  | withSortOrder {pageSize page : Int} {link : PageLink} (h : Made pageSize page link) (order : SortOrder) :
      Made pageSize page (link.withSortOrder order)
  | next {pageSize page : Int} {link : PageLink} (h : Made pageSize page link) :
      Made pageSize (min (page + 1) (2 ^ 32 - 1)) link.next

theorem hasNumbers_of_params {params : Params} (h : params.link = .ok link) :
    link.HasNumbers params.pageSize params.page := by
  unfold Params.link at h
  cases hraw : PageLink.ofRaw params.pageSize params.page with
  | error e =>
    rw [hraw] at h
    cases h
  | ok raw =>
    obtain ⟨hsize, hpage, hrange⟩ := hasNumbers_of_ofRaw hraw
    rw [hraw] at h
    cases h
    -- The search and the sort order are put in without touching the numbers.
    refine ⟨?_, ?_, hrange⟩
    · rw [← hsize]
      cases params.search <;> cases params.sortOrder <;> rfl
    · rw [← hpage]
      cases params.search <;> cases params.sortOrder <;> rfl

theorem Made.hasNumbers {pageSize page : Int} (h : Made pageSize page link) : link.HasNumbers pageSize page := by
  induction h with
  | ofSizes h => exact hasNumbers_of_ofSizes h
  | ofRaw h => exact hasNumbers_of_ofRaw h
  | read hparams h =>
    apply hasNumbers_of_params
    unfold PageLink.read at h
    rw [hparams] at h
    simp only [bind, Except.bind] at h
    split at h
    · rename_i hlink
      cases h
      exact hlink
    · cases h
  | withSearch _ _ ih => exact ⟨ih.pageSize_eq, ih.page_eq, ih.inRange⟩
  | withSortOrder _ _ ih => exact ⟨ih.pageSize_eq, ih.page_eq, ih.inRange⟩
  | @next pageSize page link _ ih =>
    obtain ⟨hsize, hpage, hrange, hpos, hlt⟩ := ih
    refine ⟨hsize, ?_, hrange, by omega, by omega⟩
    show ((min (link.page + 1) maxPage : Nat) : Int) = _
    unfold maxPage
    omega

/-- Every link can be made of its numbers: it is what is read of its JSON. -/
theorem made_iff {pageSize page : Int} : Made pageSize page link ↔ link.HasNumbers pageSize page := by
  constructor
  · exact Made.hasNumbers
  · rintro ⟨rfl, rfl, -⟩
    exact .read (readParams_json link) (recovers.read_tree link)

end ResourceCatalog.PageLink
