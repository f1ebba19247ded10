import Mathlib.Data.List.Sort
import Mathlib.Data.Set.Card
import ResourceCatalog.Proofs.Resource.Ordering

/-!
# Arrangements

Some resources with different identifiers can be put in ascending order in exactly one way, and sorting
finds it.
-/

namespace ResourceCatalog

theorem Resource.id_ne_of_pairwise {l : List Resource} (h : l.Pairwise fun a b => a.id ≠ b.id) {a b : Resource}
    (ha : a ∈ l) (hb : b ∈ l) (hne : a ≠ b) : a.id ≠ b.id := by
  have hsymm : Std.Symm fun a b : Resource => a.id ≠ b.id := ⟨fun _ _ => Ne.symm⟩
  exact h.forall ha hb hne

namespace ResourceOrdering

/-- The list has the resources of `M` and no others, every one standing before all greater ones. -/
structure Arranges (o : ResourceOrdering) (M : Set Resource) (l : List Resource) : Prop where
  mem_iff : ∀ r, r ∈ l ↔ r ∈ M
  ascending : l.Pairwise fun a b => o.compare a b = .lt

namespace Arranges

variable {o : ResourceOrdering} {M : Set Resource} {l l' : List Resource}

theorem nodup (h : o.Arranges M l) : l.Nodup := by
  refine h.ascending.imp ?_
  rintro a b hlt rfl
  rw [compare_self] at hlt
  cases hlt

/-- Two arrangements of the same resources are the same list: they have the same members once each, and
of two different members only one order is ascending. -/
theorem unique (h : o.Arranges M l) (h' : o.Arranges M l') : l = l' := by
  have hperm : l.Perm l' := (List.perm_ext_iff_of_nodup h.nodup h'.nodup).2 fun r => by
    rw [h.mem_iff, h'.mem_iff]
  refine hperm.eq_of_pairwise ?_ h.ascending h'.ascending
  intro a b _ _ hab hba
  exact absurd hba (Std.OrientedCmp.not_lt_of_lt hab)

theorem length_eq_ncard (h : o.Arranges M l) : l.length = M.ncard := by
  classical
  have hM : M = (l.toFinset : Set Resource) := by
    ext r
    simp [h.mem_iff]
  rw [hM, Set.ncard_coe_finset, List.toFinset_card_of_nodup h.nodup]

/-- Of some of the resources the arrangement is what is left of the whole one: nothing changes places. -/
theorem sublist_of_subset {N : Set Resource} (h : o.Arranges M l) (h' : o.Arranges N l') (hsub : M ⊆ N) :
    l.Sublist l' := by
  have hantisymm : Std.Antisymm fun a b => o.compare a b = .lt :=
    ⟨fun _ _ hab hba => absurd hba (Std.OrientedCmp.not_lt_of_lt hab)⟩
  have hmem : l ⊆ l' := fun r hr => (h'.mem_iff r).2 (hsub ((h.mem_iff r).1 hr))
  exact List.sublist_of_subperm_of_pairwise (h.nodup.subperm hmem) h.ascending h'.ascending

/-- An arrangement of more resources, all new ones greater than all old ones, starts with the old one. -/
theorem prefix_of_subset {N : Set Resource} (h : o.Arranges M l) (h' : o.Arranges N l') (hsub : M ⊆ N)
    (hnew : ∀ r ∈ N, r ∉ M → ∀ x ∈ M, o.compare x r = .lt) : l <+: l' := by
  classical
  have hwhole : o.Arranges N (l ++ l'.filter fun r => r ∉ M) := by
    refine ⟨fun r => ?_, List.pairwise_append.2 ⟨h.ascending, h'.ascending.filter _, ?_⟩⟩
    · rw [List.mem_append, List.mem_filter, decide_eq_true_iff, h.mem_iff, h'.mem_iff]
      constructor
      · rintro (hr | ⟨hr, -⟩)
        · exact hsub hr
        · exact hr
      · intro hr
        by_cases hM : r ∈ M
        · exact .inl hM
        · exact .inr ⟨hr, hM⟩
    · intro x hx r hr
      rw [List.mem_filter, decide_eq_true_iff, h'.mem_iff] at hr
      exact hnew r hr.1 hr.2 x ((h.mem_iff x).1 hx)
  rw [h'.unique hwhole]
  exact List.prefix_append _ _

end Arranges

/-- In a list of resources with different identifiers no two take the same place, so if it does not descend it
ascends. -/
theorem arranges_of_isLE (o : ResourceOrdering) {M : Set Resource} {l : List Resource} (hmem : ∀ r, r ∈ l ↔ r ∈ M)
    (hle : l.Pairwise fun a b => (o.compare a b).isLE = true) (hid : l.Pairwise fun a b => a.id ≠ b.id) :
    o.Arranges M l := by
  refine ⟨hmem, (hle.and hid).imp ?_⟩
  intro a b ⟨hab, hid⟩
  rcases o.lt_or_lt_of_id_ne hid with hlt | hgt
  · exact hlt
  · rw [Std.OrientedCmp.gt_of_lt hgt] at hab
    cases hab

/-- Sorting resources with different identifiers arranges them. -/
theorem sort_arranges (o : ResourceOrdering) {rs : List Resource} (hid : rs.Pairwise fun a b => a.id ≠ b.id) :
    o.Arranges {r | r ∈ rs} (o.sort rs) := by
  have hle : (o.sort rs).Pairwise fun a b => (o.compare a b).isLE = true := by
    apply List.pairwise_mergeSort
    · intro a b c
      exact Std.TransCmp.isLE_trans
    · intro a b
      rw [compare_swap o a b]
      cases o.compare a b <;> rfl
  have hne : (o.sort rs).Pairwise fun a b => a.id ≠ b.id :=
    (List.mergeSort_perm rs _).symm.pairwise hid fun h => h.symm
  exact o.arranges_of_isLE (fun r => List.mem_mergeSort) hle hne

end ResourceOrdering

end ResourceCatalog
