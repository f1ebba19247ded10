import ResourceCatalog.Proofs.Page.Slice

/-!
# Pages that can exist

Some list has a page when a page size and a page number give its totals, its number of items and whether
another page follows. The checks refuse no such page. They pass others too: a page that says that another one
follows where there is only one, and numbers of pages or of items that no page size gives.
-/

namespace ResourceCatalog.PageData

variable {α : Type} {p : PageData α} {n d k : Nat}

/-! ## Numbers of pages -/

theorem ceilDiv_eq_succ_iff (hd : 0 < d) : n ⌈/⌉ d = k + 1 ↔ k * d < n ∧ n ≤ (k + 1) * d := by
  rw [← ceilDiv_eq n hd, ← lt_ceilDiv_iff hd, ← ceilDiv_le_iff hd]
  omega

/-- A number of pages that some page size gives is given by the least size with no more pages. -/
theorem ceilDiv_ceilDiv (n : Nat) (hd : 0 < d) : n ⌈/⌉ (n ⌈/⌉ (n ⌈/⌉ d)) = n ⌈/⌉ d := by
  rcases Nat.eq_zero_or_pos n with rfl | hn
  · simp
  have hk : 0 < n ⌈/⌉ d := by
    rw [← ceilDiv_eq n hd, lt_ceilDiv_iff hd, Nat.zero_mul]
    exact hn
  have hs : 0 < n ⌈/⌉ (n ⌈/⌉ d) := by
    rw [← ceilDiv_eq n hk, lt_ceilDiv_iff hk, Nat.zero_mul]
    exact hn
  -- With the least size there are at most as many pages; it is at most `d`, so there are at least as many.
  apply Nat.le_antisymm
  · rw [ceilDiv_le_iff_le_mul hs, Nat.mul_comm, ← ceilDiv_le_iff_le_mul hk]
  · have hle : n ⌈/⌉ (n ⌈/⌉ d) ≤ d := by
      rw [ceilDiv_le_iff_le_mul hk, Nat.mul_comm, ← ceilDiv_le_iff_le_mul hd]
    rw [ceilDiv_le_iff_le_mul hd]
    calc n ≤ (n ⌈/⌉ (n ⌈/⌉ d)) * (n ⌈/⌉ (n ⌈/⌉ (n ⌈/⌉ d))) := (ceilDiv_le_iff_le_mul hs).1 (Nat.le_refl _)
      _ ≤ d * (n ⌈/⌉ (n ⌈/⌉ (n ⌈/⌉ d))) := Nat.mul_le_mul_right _ hle

/-! ## Pages of a list -/

/-- The page is page `i`, counted from zero, of a list that is cut into pages of `size` items. -/
structure IsPage (size i : Nat) (p : PageData α) : Prop where
  size_pos : 1 ≤ size
  totalPages : p.totalPages = p.totalElements ⌈/⌉ size
  hasNext_iff : p.hasNext = true ↔ i + 1 < p.totalPages
  length_data : p.data.length = min size (p.totalElements - i * size)

/-- Some list has the page. -/
def CanExist (p : PageData α) : Prop := ∃ size i, p.IsPage size i

/-- What a page that some list has must satisfy beyond the checks. -/
structure TotalsFit (p : PageData α) : Prop where
  /-- A page that another one follows is not the only one. -/
  followed : p.hasNext = true → 1 < p.totalPages
  /-- Some page size gives the number of pages; then the least size with no more pages does. -/
  beyond : p.hasNext = false → p.data = [] →
    p.totalElements ⌈/⌉ (p.totalElements ⌈/⌉ p.totalPages) = p.totalPages
  /-- The items before the last page fill the pages before it, each with no fewer items than the last. -/
  last : p.hasNext = false → p.data ≠ [] →
    p.totalPages - 1 ∣ p.totalElements - p.data.length ∧
      p.data.length * (p.totalPages - 1) ≤ p.totalElements - p.data.length

theorem ite_error_eq_ok_iff {ε β : Type} {c : Prop} [Decidable c] {e : ε} {x : Except ε β} {b : β} :
    (if c then .error e else x) = .ok b ↔ ¬c ∧ x = .ok b := by
  split <;> simp [*]

theorem checked_eq_ok_iff : p.checked = .ok p ↔
    p.data.length ≤ p.totalElements ∧ (p.totalElements = 0 ↔ p.totalPages = 0) ∧
      p.totalPages ≤ p.totalElements ∧
      (p.hasNext = true → 1 ≤ p.data.length ∧ p.totalPages = p.totalElements ⌈/⌉ p.data.length) := by
  have hfull : ¬(p.hasNext ∧ (p.data.length = 0 ∨ p.totalPages ≠ ceilDiv p.totalElements p.data.length)) ↔
      (p.hasNext = true → 1 ≤ p.data.length ∧ p.totalPages = p.totalElements ⌈/⌉ p.data.length) := by
    rcases Nat.eq_zero_or_pos p.data.length with hzero | hpos
    · simp [hzero]
    · rw [ceilDiv_eq _ hpos, not_and, not_or, not_not]
      exact imp_congr_right fun _ => and_congr_left' Nat.pos_iff_ne_zero.symm
  unfold checked
  rw [ite_error_eq_ok_iff, ite_error_eq_ok_iff, ite_error_eq_ok_iff, hfull, not_lt, not_or, not_not, not_lt,
    eq_iff_iff, and_iff_left rfl, and_assoc]

theorem checked_eq {q : PageData α} (h : p.checked = .ok q) : q = p := by
  unfold checked at h
  simp only [ite_error_eq_ok_iff, Except.ok.injEq] at h
  exact h.2.2.2.symm

namespace IsPage

variable {size i : Nat}

theorem followed_iff (h : p.IsPage size i) : p.hasNext = true ↔ (i + 1) * size < p.totalElements := by
  rw [h.hasNext_iff, h.totalPages, ← ceilDiv_eq _ h.size_pos, lt_ceilDiv_iff h.size_pos]

/-- A page that another one follows is full. -/
theorem length_data_of_hasNext (h : p.IsPage size i) (hnext : p.hasNext = true) : p.data.length = size := by
  have hlt := h.followed_iff.1 hnext
  have hlength := h.length_data
  rw [Nat.add_mul] at hlt
  omega

/-- A page that none follows holds what is left of the list. -/
theorem length_data_of_last (h : p.IsPage size i) (hlast : p.hasNext = false) :
    p.data.length = p.totalElements - i * size := by
  have hle : ¬(i + 1) * size < p.totalElements := by
    rw [← h.followed_iff, hlast]
    exact Bool.false_ne_true
  have hlength := h.length_data
  rw [Nat.add_mul] at hle
  omega

/-- No check fires on a page that some list has. -/
theorem checked_eq_ok (h : p.IsPage size i) : p.checked = .ok p := by
  have hpages : ∀ k, p.totalPages ≤ k ↔ p.totalElements ≤ size * k := fun k => by
    rw [h.totalPages, ceilDiv_le_iff_le_mul h.size_pos]
  have hzero := hpages 0
  refine checked_eq_ok_iff.2 ⟨?_, by omega, ?_, fun hnext => ?_⟩
  · rw [h.length_data]
    omega
  · rw [hpages]
    exact Nat.le_mul_of_pos_left _ h.size_pos
  · rw [h.length_data_of_hasNext hnext]
    exact ⟨h.size_pos, h.totalPages⟩

theorem totalsFit (h : p.IsPage size i) : p.TotalsFit := by
  refine ⟨fun hnext => ?_, fun hlast hnil => ?_, fun hlast hdata => ?_⟩
  · have hlt := h.hasNext_iff.1 hnext
    omega
  · rw [h.totalPages]
    exact ceilDiv_ceilDiv _ h.size_pos
  · -- A page with items that none follows is the last one, so its number tells the number of pages.
    have hlength := h.length_data_of_last hlast
    have hitems : 0 < p.data.length := List.length_pos_iff.2 hdata
    have hpages : p.totalPages = i + 1 := by
      rw [h.totalPages, ceilDiv_eq_succ_iff h.size_pos, ← not_lt, ← h.followed_iff, hlast]
      exact ⟨by omega, Bool.false_ne_true⟩
    have hfront : p.totalElements - p.data.length = i * size := by omega
    rw [hpages, hfront, Nat.add_sub_cancel, Nat.mul_comm p.data.length]
    refine ⟨Nat.dvd_mul_right _ _, Nat.mul_le_mul_left _ ?_⟩
    rw [h.length_data]
    exact Nat.min_le_left _ _

end IsPage

/-! ## What the checks leave open -/

namespace TotalsFit

variable (h : p.TotalsFit) (hchecked : p.checked = .ok p)
include h hchecked

/-- The items tell the page size, and the page may be the first one. -/
theorem isPage_of_hasNext (hnext : p.hasNext = true) : p.IsPage p.data.length 0 := by
  obtain ⟨hitems, -, -, hfull⟩ := checked_eq_ok_iff.1 hchecked
  obtain ⟨hpos, hpages⟩ := hfull hnext
  refine ⟨hpos, hpages, ⟨fun _ => h.followed hnext, fun _ => hnext⟩, ?_⟩
  rw [Nat.zero_mul, Nat.sub_zero, Nat.min_eq_left hitems]

/-- A page without items may lie behind the last page. -/
theorem canExist_of_nil (hlast : p.hasNext = false) (hnil : p.data = []) : p.CanExist := by
  obtain ⟨-, hzero, -, -⟩ := checked_eq_ok_iff.1 hchecked
  have hbeyond := h.beyond hlast hnil
  rcases Nat.eq_zero_or_pos p.totalElements with hempty | hsome
  · refine ⟨1, 0, Nat.le_refl 1, ?_, ?_, ?_⟩
    · rw [hzero.1 hempty, hempty, zero_ceilDiv]
    · simp [hlast, hzero.1 hempty]
    · simp [hnil, hempty]
  · have hpages : 0 < p.totalPages := by omega
    have hsize : 0 < p.totalElements ⌈/⌉ p.totalPages := by
      rw [← ceilDiv_eq _ hpages, lt_ceilDiv_iff hpages, Nat.zero_mul]
      exact hsome
    have hbehind : p.totalElements ≤ p.totalPages * (p.totalElements ⌈/⌉ p.totalPages) :=
      (ceilDiv_le_iff_le_mul hpages).1 (Nat.le_refl _)
    refine ⟨_, p.totalPages, hsize, hbeyond.symm, ?_, ?_⟩
    · simp [hlast]
    · rw [hnil, List.length_nil, Nat.sub_eq_zero_of_le hbehind, Nat.min_zero]

/-- The items are the last page, and the pages before it tell the page size. -/
theorem canExist_of_last (hlast : p.hasNext = false) (hdata : p.data ≠ []) : p.CanExist := by
  obtain ⟨hitems, hzero, -, -⟩ := checked_eq_ok_iff.1 hchecked
  have hpos : 0 < p.data.length := List.length_pos_iff.2 hdata
  have hpages : p.totalPages = (p.totalPages - 1) + 1 := by omega
  -- A single page leaves its size open: the number of its items will do.
  have hsize : ∃ size, p.data.length ≤ size ∧ p.totalElements = (p.totalPages - 1) * size + p.data.length := by
    obtain ⟨⟨size, hfront⟩, hle⟩ := h.last hlast hdata
    rcases Nat.eq_zero_or_pos (p.totalPages - 1) with hone | hmore
    · rw [hone, Nat.zero_mul] at hfront
      exact ⟨p.data.length, Nat.le_refl _, by rw [hone]; omega⟩
    · rw [hfront, Nat.mul_comm] at hle
      exact ⟨size, Nat.le_of_mul_le_mul_left hle hmore, by omega⟩
  obtain ⟨size, hle, htotal⟩ := hsize
  have hsucc : (p.totalPages - 1 + 1) * size = (p.totalPages - 1) * size + size := Nat.succ_mul _ _
  have hpagesOf : p.totalElements ⌈/⌉ size = (p.totalPages - 1) + 1 :=
    (ceilDiv_eq_succ_iff (by omega)).2 ⟨by omega, by omega⟩
  refine ⟨size, p.totalPages - 1, by omega, hpages.trans hpagesOf.symm, ?_, by omega⟩
  rw [hlast, ← hpages]
  simp

end TotalsFit

theorem canExist_iff : p.CanExist ↔ p.checked = .ok p ∧ p.TotalsFit := by
  constructor
  · rintro ⟨size, i, h⟩
    exact ⟨h.checked_eq_ok, h.totalsFit⟩
  · rintro ⟨hchecked, h⟩
    cases hnext : p.hasNext with
    | true => exact ⟨_, _, h.isPage_of_hasNext hchecked hnext⟩
    | false =>
      by_cases hnil : p.data = []
      · exact h.canExist_of_nil hchecked hnext hnil
      · exact h.canExist_of_last hchecked hnext hnil

end ResourceCatalog.PageData
