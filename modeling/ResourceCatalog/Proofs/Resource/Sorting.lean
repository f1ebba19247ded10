import ResourceCatalog.Resource.Ordering

/-!
# Sort orders that resolve

A link may ask for an order by anything. If resources cannot be sorted by it the link is refused, and it is refused
for nothing else.
-/

namespace ResourceCatalog

/-- The link asks for an order by something that resources cannot be sorted by. -/
def PageLink.Unsortable (link : PageLink) : Prop :=
  ∃ order, link.sortOrder = some order ∧ ∀ p, ResourceProperty.parse order.property ≠ .ok p

namespace ResourceOrdering

variable {link : PageLink}

theorem exists_ofLink_eq_error_iff : (∃ e, ofLink link = .error e) ↔ link.Unsortable := by
  unfold ofLink PageLink.Unsortable
  cases link.sortOrder with
  | none => simp
  | some order => cases hparse : ResourceProperty.parse order.property <;> simp [hparse, Except.map]

theorem kind_of_ofLink_eq_error {e : Failure} (h : ofLink link = .error e) : e.kind = .validation := by
  unfold ofLink ResourceProperty.parse at h
  split at h
  · split at h
    · cases h
    · cases h
      rfl
  · cases h

end ResourceOrdering

end ResourceCatalog
