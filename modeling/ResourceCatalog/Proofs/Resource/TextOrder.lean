import ResourceCatalog.Proofs.Id.Order

/-!
# Sorting by what is shown

Identifiers sort as the texts in which they are shown. Titles and keys sort by their code points, which is the order
of their bytes in UTF-8.
-/

namespace ResourceCatalog

theorem ResourceId.order_eq_compare_text (a b : ResourceId) : a.order b = compare a.text b.text :=
  (a.uuid.compare_text b.uuid).symm

theorem ResourceId.text_inj {a b : ResourceId} : a.text = b.text ↔ a = b :=
  ⟨fun h => congrArg mk (Id.Uuid.text_inj.1 h), congrArg text⟩

theorem TenantId.order_eq_compare_text (a b : TenantId) : a.order b = compare a.text b.text :=
  (a.uuid.compare_text b.uuid).symm

theorem TenantId.text_inj {a b : TenantId} : a.text = b.text ↔ a = b :=
  ⟨fun h => congrArg mk (Id.Uuid.text_inj.1 h), congrArg text⟩

/-- Identifiers of either type are ordered as their texts are, and the same identifiers have the same text. So
sorting by an identifier sorts by what is shown of it, and so do ties of every order. -/
theorem identifiers_sort_as_texts :
    (∀ a b : ResourceId, a.order b = compare a.text b.text ∧ (a = b ↔ a.text = b.text)) ∧
    (∀ a b : TenantId, a.order b = compare a.text b.text ∧ (a = b ↔ a.text = b.text)) ∧
    (∀ a b : Resource, ResourceProperty.id.compare a b = compare a.id.text b.id.text ∧
      ResourceProperty.tenantId.compare a b = compare a.tenantId.text b.tenantId.text) ∧
    ∀ (o : ResourceOrdering) (a b : Resource),
      o.compare a b = (o.direction.apply (o.property.compare a b)).then (compare a.id.text b.id.text) := by
  refine ⟨?_, ?_, ?_, ?_⟩
  · intro a b
    exact ⟨a.order_eq_compare_text b, ResourceId.text_inj.symm⟩
  · intro a b
    exact ⟨a.order_eq_compare_text b, TenantId.text_inj.symm⟩
  · intro a b
    exact ⟨a.id.order_eq_compare_text b.id, a.tenantId.order_eq_compare_text b.tenantId⟩
  · intro o a b
    rw [← a.id.order_eq_compare_text b.id]
    rfl

/-- Titles and keys compare as the lists of their code points, and as the lists of the bytes that encode them. -/
theorem texts_sort_by_code_point (a b : Resource) :
    (ResourceProperty.title.compare a b = compare (Text.codePoints a.title) (Text.codePoints b.title) ∧
      ResourceProperty.title.compare a b = compare (Text.utf8Bytes a.title) (Text.utf8Bytes b.title)) ∧
    ResourceProperty.resourceKey.compare a b =
        compare (Text.codePoints a.resourceKey) (Text.codePoints b.resourceKey) ∧
      ResourceProperty.resourceKey.compare a b =
        compare (Text.utf8Bytes a.resourceKey) (Text.utf8Bytes b.resourceKey) := by
  have htext : ∀ s t : String, Text.codeOrder s.toList t.toList = compare (Text.codePoints s) (Text.codePoints t) ∧
      Text.codeOrder s.toList t.toList = compare (Text.utf8Bytes s) (Text.utf8Bytes t) :=
    fun s t => ⟨(Text.compare_codePoints s t).symm, (Text.compare_utf8Bytes s t).symm⟩
  exact ⟨htext a.title b.title, htext a.resourceKey b.resourceKey⟩

end ResourceCatalog
