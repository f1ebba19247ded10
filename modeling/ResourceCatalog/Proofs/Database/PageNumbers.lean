import ResourceCatalog.Proofs.Database.Failures
import ResourceCatalog.Proofs.Page.Numbers
import ResourceCatalog.Proofs.Page.Words

/-!
# Exact paging

The numbers of a page, from what a caller gives to what the database is sent and the caller is told. A link is made
of numbers in range or not at all, and all that is computed from it is what whole numbers give.
-/

namespace ResourceCatalog

/-- The stretch of a list that a link asks for fits words of 64 bits, with a sign and without. The database is sent
it, so no list fails because a number is out of range. -/
structure PageLink.WindowExact (link : PageLink) : Prop where
  offset_eq : link.offset64? = some (link.page * link.pageSize)
  end_lt : link.offset + link.limit < 2 ^ 63
  limit_fits : Database.fits "Page size" link.limit = .ok ()
  offset_fits : Database.fits "Page offset" link.offset = .ok ()
  never_out_of_range : ∀ (σ : Type)
    (answer : σ → (request : Database.Request) → Except Database.Error request.Reply × σ) (c : σ)
    (scope : ListScope) (tenant : TenantId) (what : String),
    (Database.Program.run answer c (Database.list scope tenant link).run).1 ≠
      .error (.validation (what ++ " is out of range"))

theorem PageLink.windowExact (link : PageLink) : link.WindowExact := by
  refine ⟨link.offset64?_eq, link.offset_add_limit_lt, (Database.fits_link link).1, (Database.fits_link link).2, ?_⟩
  intro σ answer c scope tenant what h
  exact Database.ofLink_ne_out_of_range link what (Database.ofLink_eq_error_of_list h rfl)

/-- The totals of a page of a list of `total` items, computed in words of 64 bits and as they are meant. -/
structure PageData.TotalsExact {α : Type} (p : PageData α) (total : Nat) (link : PageLink) : Prop where
  totalPages_eq : totalPages64? total link = some p.totalPages
  totalPages_isLeast : IsLeast {k | total ≤ k * link.pageSize} p.totalPages
  hasNext_eq : hasNext64? total link = some p.hasNext
  hasNext_iff : p.hasNext = true ↔ (link.page + 1) * link.pageSize < total

theorem PageData.totalsExact_ofLink {α : Type} {total : Nat} (data : List α) (link : PageLink)
    (h : total < Word.size64) : (ofLink data total link).TotalsExact total link :=
  ⟨totalPages64?_eq data link h, totalPages_isLeast data total link, hasNext64?_eq data link h, ofLink_hasNext_iff⟩

/-- Numbers make a link just if they are in range, and a link has the numbers that it is made of, however it is made.
The stretch of a list that it asks for and the totals of its page are computed in words without overflow and without
division by zero. -/
theorem paging_is_exact :
    (∀ pageSize page : Int,
      (PageLink.InRange pageSize page →
        ∃ link, PageLink.ofRaw pageSize page = .ok link ∧ link.HasNumbers pageSize page) ∧
      (¬PageLink.InRange pageSize page → ∃ e, PageLink.ofRaw pageSize page = .error e ∧ e.kind = .validation)) ∧
    (∀ (pageSize page : Int) (link : PageLink),
      PageLink.Made pageSize page link ↔ link.HasNumbers pageSize page) ∧
    (∀ link : PageLink, link.WindowExact) ∧
    ∀ (α : Type) (data : List α) (total : Nat) (link : PageLink), total < Word.size64 →
      (PageData.ofLink data total link).TotalsExact total link := by
  refine ⟨fun pageSize page => ⟨?_, ?_⟩, fun _ _ _ => PageLink.made_iff, PageLink.windowExact, ?_⟩
  · intro hrange
    obtain ⟨link, hlink⟩ := PageLink.exists_ofRaw_eq_ok_iff.2 hrange
    exact ⟨link, hlink, PageLink.hasNumbers_of_ofRaw hlink⟩
  · intro hrange
    cases hraw : PageLink.ofRaw pageSize page with
    | ok link => exact absurd (PageLink.exists_ofRaw_eq_ok_iff.1 ⟨link, hraw⟩) hrange
    | error e => exact ⟨e, rfl, PageLink.kind_of_ofRaw_eq_error hraw⟩
  · intro α data total link htotal
    exact PageData.totalsExact_ofLink data link htotal

end ResourceCatalog
