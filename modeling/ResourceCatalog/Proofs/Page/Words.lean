import ResourceCatalog.Proofs.Page.Link
import ResourceCatalog.Proofs.Page.Progress

/-!
# Paging in machine words

Offsets and totals as words of 64 bits compute them, where a result that does not fit is no result. The sizes of
pages and the numbers of pages are small enough for all of them, so the words hold what whole numbers give.
-/

namespace ResourceCatalog

namespace Word

/-- The number, if a word of 64 bits holds it. -/
def held64? (n : Nat) : Option Nat := if n < size64 then some n else none

theorem held64?_of_lt {n : Nat} (h : n < size64) : held64? n = some n := if_pos h

/-- The quotient and the remainder, unless the divisor is zero. -/
def divMod64? (n d : Nat) : Option (Nat × Nat) := if d = 0 then none else some (n / d, n % d)

/-- The quotient, rounded up. -/
def ceilDiv64? (n d : Nat) : Option Nat := do
  let (quotient, remainder) ← divMod64? n d
  if remainder = 0 then some quotient else held64? (quotient + 1)

/-- A quotient that leaves a remainder is far from the greatest number. -/
theorem ceilDiv64?_eq {n d : Nat} (hn : n < size64) (hd : 0 < d) : ceilDiv64? n d = some (PageData.ceilDiv n d) := by
  unfold ceilDiv64? divMod64? PageData.ceilDiv
  rw [if_neg (by omega)]
  show (if n % d = 0 then some (n / d) else held64? (n / d + 1)) = _
  split
  · rfl
  · rename_i hrest
    apply held64?_of_lt
    have hdiv : d * (n / d) + n % d = n := Nat.div_add_mod n d
    have hle : n / d ≤ d * (n / d) := Nat.le_mul_of_pos_left _ hd
    omega

end Word

namespace PageLink

def offset64? (link : PageLink) : Option Nat := Word.held64? (link.page * link.pageSize)

theorem offset64?_eq (link : PageLink) : link.offset64? = some link.offset := by
  have hlt := link.offset_add_limit_lt
  apply Word.held64?_of_lt
  show link.offset < Word.size64
  unfold Word.size64
  omega

end PageLink

namespace PageData

def totalPages64? (total : Nat) (link : PageLink) : Option Nat := Word.ceilDiv64? total link.pageSize

def hasNext64? (total : Nat) (link : PageLink) : Option Bool := do
  let following ← Word.held64? (link.page + 1)
  let totalPages ← totalPages64? total link
  some (following < totalPages)

variable {α : Type} {total : Nat}

theorem totalPages64?_eq (data : List α) (link : PageLink) (h : total < Word.size64) :
    totalPages64? total link = some (ofLink data total link).totalPages :=
  Word.ceilDiv64?_eq h link.pageSize_mem.1

theorem hasNext64?_eq (data : List α) (link : PageLink) (h : total < Word.size64) :
    hasNext64? total link = some (ofLink data total link).hasNext := by
  have hpage : link.page ≤ 0xFFFFFFFF := link.page_le
  rw [hasNext64?, Word.held64?_of_lt (by unfold Word.size64; omega), totalPages64?_eq data link h]
  rfl

-- The greatest total, on the page with the greatest number.
example : hasNext64? (2 ^ 64 - 1) greatestLink = some true := by decide

/-- The number of pages is the least one with room for all items. -/
theorem totalPages_isLeast (data : List α) (total : Nat) (link : PageLink) :
    IsLeast {k | total ≤ k * link.pageSize} (ofLink data total link).totalPages := by
  have hle : ∀ k, ceilDiv total link.pageSize ≤ k ↔ total ≤ k * link.pageSize := fun _ =>
    ceilDiv_le_iff link.pageSize_mem.1
  exact ⟨(hle _).1 (Nat.le_refl _), fun k hk => (hle k).2 hk⟩

end PageData

end ResourceCatalog
