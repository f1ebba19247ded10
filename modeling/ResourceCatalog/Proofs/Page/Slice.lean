import Mathlib.Algebra.Order.Floor.Div
import ResourceCatalog.Page.Data

/-!
# Pages as slices

A page answers a link about a whole list when its items are the stretch of the list that the link asks
for and its totals are those of the list. What a page is built from makes it such a slice.
-/

namespace ResourceCatalog.PageData

/-! ## Rounding up -/

theorem ceilDiv_le_iff {n d k : Nat} (hd : 0 < d) : ceilDiv n d ≤ k ↔ n ≤ k * d := by
  have hdiv : d * (n / d) + n % d = n := Nat.div_add_mod n d
  have hmod : n % d < d := Nat.mod_lt n hd
  unfold ceilDiv
  split
  · -- Nothing is left over: `n` is a multiple of `d`.
    rename_i hzero
    rw [hzero, Nat.add_zero] at hdiv
    rw [Nat.add_zero, ← Nat.mul_le_mul_left_iff hd, hdiv, Nat.mul_comm k]
  · -- Something is left over, less than one more `d`.
    rename_i hpos
    constructor
    · intro hle
      have hmul := Nat.mul_le_mul_left d hle
      rw [Nat.mul_add, Nat.mul_one, Nat.mul_comm d k] at hmul
      omega
    · intro hle
      by_contra hlt
      have hmul := Nat.mul_le_mul_left d (show k ≤ n / d by omega)
      rw [Nat.mul_comm d k] at hmul
      omega

theorem lt_ceilDiv_iff {n d k : Nat} (hd : 0 < d) : k < ceilDiv n d ↔ k * d < n := by
  have h := ceilDiv_le_iff (n := n) (k := k) hd
  omega

theorem ceilDiv_eq (n : Nat) {d : Nat} (hd : 0 < d) : ceilDiv n d = n ⌈/⌉ d := by
  apply eq_of_forall_ge_iff
  intro k
  rw [ceilDiv_le_iff hd, ceilDiv_le_iff_le_mul hd, Nat.mul_comm]

/-! ## Slices -/

variable {α : Type} {link : PageLink} {l : List α} {p : PageData α}

/-- The page answers the link about the whole list `l`. -/
structure IsSlice (link : PageLink) (l : List α) (p : PageData α) : Prop where
  getElem?_data : ∀ k, p.data[k]? =
    if k < link.pageSize then l[link.page * link.pageSize + k]? else none
  totalElements : p.totalElements = l.length
  totalPages : p.totalPages = l.length ⌈/⌉ link.pageSize
  hasNext_iff : p.hasNext = true ↔ ∃ i < l.length, (link.page + 1) * link.pageSize ≤ i

theorem ofLink_isSlice (link : PageLink) (l : List α) :
    (ofLink ((l.drop link.offset).take link.limit) l.length link).IsSlice link l := by
  have hpos : 0 < link.limit := link.pageSize_mem.1
  refine ⟨fun k => ?_, rfl, ceilDiv_eq _ hpos, ?_⟩
  · show ((l.drop link.offset).take link.limit)[k]? = _
    rw [List.getElem?_take, List.getElem?_drop]
    rfl
  · show decide (link.page + 1 < ceilDiv l.length link.limit) = true ↔ _
    rw [decide_eq_true_iff, lt_ceilDiv_iff hpos]
    exact ⟨fun h => ⟨_, h, Nat.le_refl _⟩, fun ⟨i, hi, hle⟩ => Nat.lt_of_le_of_lt hle hi⟩

namespace IsSlice

theorem data_eq (h : p.IsSlice link l) : p.data = (l.drop link.offset).take link.limit := by
  apply List.ext_getElem?
  intro k
  rw [h.getElem?_data, List.getElem?_take, List.getElem?_drop]
  rfl

theorem hasNext_eq_true_iff (h : p.IsSlice link l) :
    p.hasNext = true ↔ (link.page + 1) * link.pageSize < l.length := by
  rw [h.hasNext_iff]
  exact ⟨fun ⟨i, hi, hle⟩ => Nat.lt_of_le_of_lt hle hi, fun hlt => ⟨_, hlt, Nat.le_refl _⟩⟩

/-- A page that none follows holds all that is left of the list. -/
theorem data_eq_drop (h : p.IsSlice link l) (hlast : p.hasNext = false) : p.data = l.drop link.offset := by
  have hnot : ¬(link.page + 1) * link.pageSize < l.length := by
    rw [← h.hasNext_eq_true_iff, hlast]
    exact Bool.false_ne_true
  rw [h.data_eq]
  apply List.take_of_length_le
  rw [List.length_drop, PageLink.offset, PageLink.limit]
  rw [Nat.add_mul] at hnot
  omega

end IsSlice

end ResourceCatalog.PageData
