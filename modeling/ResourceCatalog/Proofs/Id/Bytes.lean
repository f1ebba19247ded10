import Mathlib.Algebra.Group.Nat.Defs
import ResourceCatalog.Proofs.Text.Utf8

/-!
# The bytes of identifiers

A UUID is stored as sixteen bytes, the most significant first. Comparing the bytes compares the identifiers.
-/

namespace ResourceCatalog

/-- Numbers that are cut at the same place compare by what is above it, then by what is below it. -/
theorem compare_then_compare {d q q' r r' : Nat} (hr : r < d) (hr' : r' < d) :
    (compare q q').then (compare r r') = compare (q * d + r) (q' * d + r') := by
  have hmul : ∀ {a b : Nat}, a < b → a * d + d ≤ b * d := by
    intro a b hab
    rw [← Nat.succ_mul]
    exact Nat.mul_le_mul_right d hab
  rcases Nat.lt_trichotomy q q' with hlt | rfl | hgt
  · have hle := hmul hlt
    rw [Nat.compare_eq_lt.2 hlt, Ordering.lt_then, Eq.comm, Nat.compare_eq_lt]
    omega
  · rw [Nat.compare_eq_eq.2 rfl, Ordering.eq_then]
    rcases Nat.lt_trichotomy r r' with h | rfl | h
    · rw [Nat.compare_eq_lt.2 h, Nat.compare_eq_lt.2 (by omega)]
    · rw [Nat.compare_eq_eq.2 rfl, Nat.compare_eq_eq.2 rfl]
    · rw [Nat.compare_eq_gt.2 h, Nat.compare_eq_gt.2 (by omega)]
  · have hle := hmul hgt
    rw [Nat.compare_eq_gt.2 hgt, Ordering.gt_then, Eq.comm, Nat.compare_eq_gt]
    omega

namespace Id

/-- The last `count` bytes of a number, most significant first. -/
def bigEndian : Nat → Nat → List UInt8
  | 0, _ => []
  | count + 1, n => UInt8.ofNat (n / 256 ^ count) :: bigEndian count n

/-- The sixteen bytes of an identifier. -/
def Uuid.bytes (u : Uuid) : List UInt8 := bigEndian 16 u.value.val

theorem byteOrder_bigEndian (count m n : Nat) :
    Text.byteOrder (bigEndian count m) (bigEndian count n) = compare (m % 256 ^ count) (n % 256 ^ count) := by
  induction count with
  | zero =>
    rw [Nat.pow_zero, Nat.mod_one, Nat.mod_one]
    rfl
  | succ count ih =>
    have hpos : 0 < 256 ^ count := Nat.pow_pos (by decide)
    have hcut : ∀ k, k % 256 ^ (count + 1) = k / 256 ^ count % 256 * 256 ^ count + k % 256 ^ count := by
      intro k
      rw [Nat.pow_succ, Nat.mod_mul, Nat.add_comm, Nat.mul_comm]
    rw [bigEndian, bigEndian, Text.byteOrder_cons, ih, UInt8.toNat_ofNat', UInt8.toNat_ofNat', hcut, hcut,
      compare_then_compare (Nat.mod_lt _ hpos) (Nat.mod_lt _ hpos)]

/-- Identifiers in the order of their bytes are in their own order. -/
theorem Uuid.byteOrder_bytes (u v : Uuid) : Text.byteOrder u.bytes v.bytes = u.order v := by
  have hbound : ∀ w : Uuid, w.value.val % 256 ^ 16 = w.value.val := fun w => Nat.mod_eq_of_lt w.value.isLt
  rw [Uuid.bytes, Uuid.bytes, byteOrder_bigEndian, hbound, hbound]
  rfl

end Id

end ResourceCatalog
