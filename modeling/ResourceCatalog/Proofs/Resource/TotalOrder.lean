import Mathlib.Data.Set.Function
import Mathlib.Order.Defs.Unbundled
import ResourceCatalog.Proofs.Resource.Ordering

/-!
# Orders of resources tell resources apart

Two values of a property compare equal only if they are the same. So an order has one place for two resources only
if they have the same identifier and agree on the property, and where they agree on it the identifiers decide.
-/

namespace ResourceCatalog

-- Values are told apart by a key that determines them.
theorem lawfulEqCmp_on {α β : Type} (cmp : β → β → Ordering) [Std.LawfulEqCmp cmp] {key : α → β}
    (hkey : Function.Injective key) : Std.LawfulEqCmp fun a b => cmp (key a) (key b) where
  compare_self := Std.ReflCmp.compare_self
  eq_of_compare h := hkey (Std.LawfulEqCmp.eq_of_compare h)

/-! ## Texts -/

instance : Std.LawfulEqCmp Text.codeOrder := by
  have hchar : Std.LawfulEqCmp (compareOn Char.toNat) :=
    lawfulEqCmp_on compare fun _ _ h => Char.toNat_inj.1 h
  rw [Text.codeOrder_eq_compareLex]
  infer_instance

/-! ## Identifiers, types and times -/

instance : Std.LawfulEqCmp ResourceId.order := lawfulEqCmp_on compare fun _ _ => ResourceId.rank_inj

theorem TenantId.value_injective : Function.Injective fun t : TenantId => t.uuid.value.val := by
  intro a b h
  obtain ⟨⟨a⟩⟩ := a
  obtain ⟨⟨b⟩⟩ := b
  have hval : a.val = b.val := h
  rw [Fin.ext hval]

instance : Std.LawfulEqCmp TenantId.order := lawfulEqCmp_on compare TenantId.value_injective

theorem ResourceType.rank_injective : Function.Injective ResourceType.rank := by
  intro a b h
  cases a <;> cases b <;> cases h <;> rfl

instance : Std.LawfulEqCmp ResourceType.order := lawfulEqCmp_on compare ResourceType.rank_injective

instance : Std.LawfulEqCmp Time.Date.order where
  compare_self := Std.ReflCmp.compare_self
  eq_of_compare {a b} h := by
    simp only [Time.Date.order, Ordering.then_eq_eq, Std.LawfulEqOrd.compare_eq_iff_eq] at h
    cases a
    cases b
    simp_all

instance : Std.LawfulEqCmp Time.Timestamp.order where
  compare_self := Std.ReflCmp.compare_self
  eq_of_compare {a b} h := by
    simp only [Time.Timestamp.order, Ordering.then_eq_eq, Std.LawfulEqCmp.compare_eq_iff_eq] at h
    cases a
    cases b
    simp_all

/-! ## Resources -/

/-- Both resources have the same value of the property. -/
def ResourceProperty.Agree (p : ResourceProperty) (a b : Resource) : Prop :=
  match p with
  | createdTime => a.createdAt = b.createdAt
  | title => a.title = b.title
  | resourceType => a.resourceType = b.resourceType
  | resourceKey => a.resourceKey = b.resourceKey
  | tenantId => a.tenantId = b.tenantId
  | id => a.id = b.id

theorem ResourceProperty.compare_eq_eq_iff {p : ResourceProperty} {a b : Resource} :
    p.compare a b = .eq ↔ p.Agree a b := by
  cases p <;> simp only [compare, Agree, Std.LawfulEqCmp.compare_eq_iff_eq, String.toList_inj]

theorem SortDirection.apply_eq_eq_iff {d : SortDirection} {o : Ordering} : d.apply o = .eq ↔ o = .eq := by
  cases d <;> cases o <;> decide

namespace ResourceOrdering

theorem compare_eq_eq_iff {o : ResourceOrdering} {a b : Resource} :
    o.compare a b = .eq ↔ a.id = b.id ∧ o.property.Agree a b := by
  rw [compare, Ordering.then_eq_eq, SortDirection.apply_eq_eq_iff, ResourceProperty.compare_eq_eq_iff,
    Std.LawfulEqCmp.compare_eq_iff_eq, and_comm]

-- Where the property does not decide, the direction does not matter.
theorem compare_of_agree {o : ResourceOrdering} {a b : Resource} (h : o.property.Agree a b) :
    o.compare a b = Ord.compare a.id.rank b.id.rank := by
  have hproperty : o.direction.apply (o.property.compare a b) = .eq :=
    SortDirection.apply_eq_eq_iff.2 (ResourceProperty.compare_eq_eq_iff.2 h)
  rw [compare, hproperty]
  rfl

theorem compare_trans {o : ResourceOrdering} {a b c : Resource} {outcome : Ordering}
    (hab : o.compare a b = outcome) (hbc : o.compare b c = outcome) : o.compare a c = outcome := by
  cases outcome with
  | lt => exact Std.TransCmp.lt_trans hab hbc
  | eq => exact Std.TransCmp.eq_trans hab hbc
  | gt => exact Std.TransCmp.gt_trans hab hbc

theorem isStrictTotalOrder (o : ResourceOrdering) {M : Set Resource} (hM : M.InjOn Resource.id) :
    IsStrictTotalOrder M fun a b => o.compare a b = .lt where
  trichotomous a b hab hba := by
    -- Different resources of the set have different identifiers, so one of them comes first.
    by_contra hne
    have hid : a.1.id ≠ b.1.id := fun h => hne (Subtype.ext (hM a.2 b.2 h))
    rcases o.lt_or_lt_of_id_ne hid with hlt | hgt
    · exact hab hlt
    · exact hba hgt
  irrefl a h := by
    rw [compare_self] at h
    cases h
  trans a b c := compare_trans

/-- An order of resources, by any property in either direction, is total and tells resources apart. Comparing the
other way round gives the opposite, and all outcomes carry over from two comparisons in a row to a third. Resources
that take one place have the same identifier and agree on the property; those that agree on it come by their
identifiers, ascending in both directions. Resources with different identifiers are strictly and totally ordered. -/
theorem compare_total (o : ResourceOrdering) :
    (∀ a b, o.compare a b = (o.compare b a).swap) ∧
    (∀ a b c outcome, o.compare a b = outcome → o.compare b c = outcome → o.compare a c = outcome) ∧
    (∀ a b c, (o.compare a b).isLE = true → (o.compare b c).isLE = true → (o.compare a c).isLE = true) ∧
    (∀ a b, o.compare a b = .eq ↔ a.id = b.id ∧ o.property.Agree a b) ∧
    (∀ a b, o.property.Agree a b → o.compare a b = Ord.compare a.id.rank b.id.rank) ∧
    ∀ M : Set Resource, M.InjOn Resource.id → IsStrictTotalOrder M fun a b => o.compare a b = .lt := by
  refine ⟨?_, ?_, ?_, ?_, ?_, ?_⟩
  · intro a b
    exact compare_swap o b a
  · intro a b c outcome
    exact compare_trans
  · intro a b c
    exact Std.TransCmp.isLE_trans
  · intro a b
    exact compare_eq_eq_iff
  · intro a b
    exact compare_of_agree
  · intro M hM
    exact o.isStrictTotalOrder hM

end ResourceOrdering

end ResourceCatalog
