import Mathlib.Tactic.SplitIfs
import ResourceCatalog.Proofs.Resource.Ordering

/-!
# Orders of bytes

The order of texts by code point is that of their UTF-8 bytes: the first byte of a character tells its length,
longer characters have greater first bytes, and among characters of one length the bytes are the digits of the
code point.
-/

namespace ResourceCatalog.Text

/-- The first different byte decides, and a front of some bytes comes before them. -/
def byteOrder : List UInt8 → List UInt8 → Ordering := List.compareLex (compareOn UInt8.toNat)

/-- The bytes of a text in UTF-8. -/
def utf8 (s : List Char) : List UInt8 := s.flatMap String.utf8EncodeChar

theorem byteOrder_cons {x y : UInt8} {xs ys : List UInt8} :
    byteOrder (x :: xs) (y :: ys) = (compare x.toNat y.toNat).then (byteOrder xs ys) :=
  List.compareLex_cons_cons

theorem byteOrder_append_left (s xs ys : List UInt8) : byteOrder (s ++ xs) (s ++ ys) = byteOrder xs ys := by
  induction s with
  | nil => rfl
  | cons x s ih =>
    rw [List.cons_append, List.cons_append, byteOrder_cons, Nat.compare_eq_eq.2 rfl, Ordering.eq_then, ih]

/-- The lists differ before either ends, first in a byte that is smaller in the first list. -/
def FirstLess : List UInt8 → List UInt8 → Prop
  | x :: xs, y :: ys => x.toNat < y.toNat ∨ x.toNat = y.toNat ∧ FirstLess xs ys
  | _, _ => False

/-- What stands behind the first difference does not matter. -/
theorem FirstLess.byteOrder_append {s t : List UInt8} (h : FirstLess s t) (xs ys : List UInt8) :
    byteOrder (s ++ xs) (t ++ ys) = .lt := by
  induction s generalizing t with
  | nil => exact h.elim
  | cons x s ih =>
    cases t with
    | nil => exact h.elim
    | cons y t =>
      rw [List.cons_append, List.cons_append, byteOrder_cons, Ordering.then_eq_lt, Nat.compare_eq_lt,
        Nat.compare_eq_eq]
      exact h.imp_right (And.imp_right ih)

theorem firstLess_utf8EncodeChar {a b : Char} (h : a.toNat < b.toNat) :
    FirstLess (String.utf8EncodeChar a) (String.utf8EncodeChar b) := by
  have hb : b.toNat < 0x110000 := by
    rcases b.valid with hlow | hhigh
    · exact Nat.lt_trans hlow (by decide)
    · exact hhigh.2
  unfold String.utf8EncodeChar
  simp only [Char.toNat_val]
  have hdigits : ∀ n, n / 4096 = n / 64 / 64 ∧ n / 262144 = n / 64 / 64 / 64 := by omega
  rw [(hdigits a.toNat).1, (hdigits b.toNat).1, (hdigits a.toNat).2, (hdigits b.toNat).2]
  -- Both characters by their number of bytes.
  split_ifs <;>
    simp (disch := omega) only [FirstLess, UInt8.toNat_ofNat', Nat.mod_eq_of_lt, or_false, and_false] <;>
    omega

instance : Std.TransCmp byteOrder := inferInstanceAs (Std.TransCmp (List.compareLex (compareOn UInt8.toNat)))

theorem byteOrder_nil_left {s : List UInt8} (h : s ≠ []) : byteOrder [] s = .lt := by
  cases s with
  | nil => exact absurd rfl h
  | cons => rfl

theorem utf8_cons (c : Char) (s : List Char) : utf8 (c :: s) = String.utf8EncodeChar c ++ utf8 s := rfl

theorem utf8_cons_ne_nil (c : Char) (s : List Char) : utf8 (c :: s) ≠ [] :=
  List.append_ne_nil_of_left_ne_nil String.utf8EncodeChar_ne_nil _

/-- Texts in the order of their bytes are in the order of their code points. -/
theorem byteOrder_utf8 (s t : List Char) : byteOrder (utf8 s) (utf8 t) = codeOrder s t := by
  induction s generalizing t with
  | nil =>
    cases t with
    | nil => rfl
    | cons b t => exact byteOrder_nil_left (utf8_cons_ne_nil b t)
  | cons a s ih =>
    cases t with
    | nil => exact Std.OrientedCmp.gt_of_lt (byteOrder_nil_left (utf8_cons_ne_nil a s))
    | cons b t =>
      rw [utf8_cons, utf8_cons, codeOrder]
      rcases Nat.lt_trichotomy a.toNat b.toNat with hlt | heq | hgt
      · rw [(firstLess_utf8EncodeChar hlt).byteOrder_append, Nat.compare_eq_lt.2 hlt, Ordering.lt_then]
      · obtain rfl : a = b := Char.ext (UInt32.toNat_inj.1 heq)
        rw [byteOrder_append_left, ih, Nat.compare_eq_eq.2 rfl, Ordering.eq_then]
      · have hgreater := (firstLess_utf8EncodeChar hgt).byteOrder_append (utf8 t) (utf8 s)
        rw [Std.OrientedCmp.gt_of_lt hgreater, Nat.compare_eq_gt.2 hgt, Ordering.gt_then]

end ResourceCatalog.Text
