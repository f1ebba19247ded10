import ResourceCatalog.Resource.Ordering
import ResourceCatalog.Store.Rows

/-!
# Orders of resources are total

Every order that a list can be sorted by is a preorder in which any two resources can be compared, and
only a resource with the same identifier takes the same place. The laws are those of the standard
library's classes for comparisons, one instance for each comparison from the code points up.
-/

namespace ResourceCatalog

/-- Comparing by a key keeps the laws of the comparison of the keys. -/
theorem transCmp_on {α β : Type} (cmp : β → β → Ordering) [Std.TransCmp cmp] (key : α → β) :
    Std.TransCmp fun a b => cmp (key a) (key b) where
  eq_swap := Std.OrientedCmp.eq_swap
  isLE_trans := Std.TransCmp.isLE_trans

/-! ## Texts -/

namespace Text

theorem codeOrder_eq_compareLex : codeOrder = List.compareLex (compareOn Char.toNat) := by
  funext as bs
  induction as generalizing bs with
  | nil => cases bs <;> rfl
  | cons a as ih =>
    cases bs with
    | nil => rfl
    | cons b bs => rw [codeOrder, List.compareLex_cons_cons, ih, compareOn]

instance : Std.TransCmp codeOrder := codeOrder_eq_compareLex ▸ inferInstance

end Text

/-! ## Identifiers, types and times -/

instance : Std.TransCmp Id.Uuid.order := transCmp_on compare fun u : Id.Uuid => u.value.val

instance : Std.TransCmp ResourceId.order := transCmp_on Id.Uuid.order ResourceId.uuid

instance : Std.TransCmp TenantId.order := transCmp_on Id.Uuid.order TenantId.uuid

theorem ResourceId.eq_of_order {a b : ResourceId} (h : a.order b = .eq) : a = b :=
  ResourceId.rank_inj (Std.LawfulEqOrd.eq_of_compare h)

instance : Std.TransCmp ResourceType.order := transCmp_on compare ResourceType.rank

instance : Std.TransCmp Time.Date.order :=
  inferInstanceAs (Std.TransCmp (compareLex (compareOn Time.Date.year)
    (compareLex (compareOn Time.Date.month) (compareOn Time.Date.day))))

instance : Std.TransCmp Time.Timestamp.order :=
  have := transCmp_on Time.Date.order Time.Timestamp.date
  inferInstanceAs (Std.TransCmp (compareLex (fun a b => Time.Date.order a.date b.date)
    (compareLex (compareOn Time.Timestamp.hour) (compareLex (compareOn Time.Timestamp.minute)
      (compareLex (compareOn Time.Timestamp.second) (compareOn Time.Timestamp.nano))))))

/-! ## Resources -/

instance (p : ResourceProperty) : Std.TransCmp p.compare := by
  cases p with
  | createdTime => exact transCmp_on Time.Timestamp.order Resource.createdAt
  | title => exact transCmp_on Text.codeOrder fun r : Resource => r.title.toList
  | resourceType => exact transCmp_on ResourceType.order Resource.resourceType
  | resourceKey => exact transCmp_on Text.codeOrder fun r : Resource => r.resourceKey.toList
  | tenantId => exact transCmp_on TenantId.order Resource.tenantId
  | id => exact transCmp_on ResourceId.order Resource.id

/-- Turning a comparison round keeps its laws. -/
instance (d : SortDirection) (p : ResourceProperty) :
    Std.TransCmp fun a b => d.apply (p.compare a b) := by
  cases d with
  | asc => exact inferInstanceAs (Std.TransCmp p.compare)
  | desc =>
    have hswap : (fun a b => SortDirection.desc.apply (p.compare a b)) = fun a b => p.compare b a := by
      funext a b
      exact Std.OrientedCmp.eq_swap.symm
    rw [hswap]
    infer_instance

namespace ResourceOrdering

instance (o : ResourceOrdering) : Std.TransCmp o.compare :=
  have := transCmp_on ResourceId.order Resource.id
  inferInstanceAs (Std.TransCmp (compareLex (fun a b => o.direction.apply (o.property.compare a b))
    fun a b => a.id.order b.id))

variable {o : ResourceOrdering} {a b : Resource}

theorem compare_self (o : ResourceOrdering) (a : Resource) : o.compare a a = .eq := Std.ReflCmp.compare_self

theorem compare_swap (o : ResourceOrdering) (a b : Resource) : o.compare b a = (o.compare a b).swap :=
  Std.OrientedCmp.eq_swap

/-- Only a resource with the same identifier takes the same place. -/
theorem id_eq_of_compare (h : o.compare a b = .eq) : a.id = b.id :=
  ResourceId.eq_of_order (Ordering.then_eq_eq.1 h).2

theorem lt_or_lt_of_id_ne (o : ResourceOrdering) (hid : a.id ≠ b.id) : o.compare a b = .lt ∨ o.compare b a = .lt := by
  rw [compare_swap o a b]
  cases h : o.compare a b with
  | lt => exact .inl rfl
  | eq => exact absurd (id_eq_of_compare h) hid
  | gt => exact .inr rfl

end ResourceOrdering

end ResourceCatalog
