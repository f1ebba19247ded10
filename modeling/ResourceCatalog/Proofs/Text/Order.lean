import ResourceCatalog.Proofs.Resource.TotalOrder
import ResourceCatalog.Proofs.Text.Utf8

/-!
# The order of texts

Texts come in the order of their characters, which is that of the lists of their code points and that of the bytes of
their UTF-8 form. Texts that are put together from pieces of the same lengths compare piece by piece.
-/

namespace ResourceCatalog.Text

def codePoints (s : String) : List Nat := s.toList.map Char.toNat

/-- The bytes that the standard library keeps of a text. -/
def utf8Bytes (s : String) : List UInt8 := s.toByteArray.data.toList

/-! ## Pieces -/

theorem codeOrder_append {s t : List Char} (h : s.length = t.length) (s' t' : List Char) :
    codeOrder (s ++ s') (t ++ t') = (codeOrder s t).then (codeOrder s' t') := by
  induction s generalizing t with
  | nil =>
    obtain rfl := List.length_eq_zero_iff.1 h.symm
    rfl
  | cons a s ih =>
    cases t with
    | nil => cases h
    | cons b t =>
      rw [List.cons_append, List.cons_append, codeOrder, codeOrder, ih (Nat.succ.inj h), Ordering.then_assoc]

theorem codeOrder_cons_self (c : Char) (s t : List Char) : codeOrder (c :: s) (c :: t) = codeOrder s t := by
  rw [codeOrder, Nat.compare_eq_eq.2 rfl, Ordering.eq_then]

/-! ## Comparisons of the standard library -/

theorem codeOrder_eq_lt_iff {s t : List Char} : codeOrder s t = .lt ↔ s < t := by
  induction s generalizing t with
  | nil =>
    cases t with
    | nil => exact ⟨nofun, fun h => absurd h (List.lt_irrefl [])⟩
    | cons b t => exact ⟨fun _ => List.nil_lt_cons b t, fun _ => rfl⟩
  | cons a s ih =>
    cases t with
    | nil => exact ⟨nofun, nofun⟩
    | cons b t =>
      rw [codeOrder, Ordering.then_eq_lt, Nat.compare_eq_lt, Nat.compare_eq_eq, ih, List.cons_lt_cons_iff,
        Char.toNat_inj]
      exact Iff.rfl

theorem codeOrder_toList (s t : String) : codeOrder s.toList t.toList = compare s t := by
  show _ = if s < t then Ordering.lt else if s = t then .eq else .gt
  by_cases hlt : s < t
  · rw [if_pos hlt, codeOrder_eq_lt_iff]
    exact hlt
  · rw [if_neg hlt]
    by_cases heq : s = t
    · rw [if_pos heq, heq]
      exact Std.ReflCmp.compare_self
    · rw [if_neg heq]
      cases h : codeOrder s.toList t.toList with
      | lt => exact absurd (codeOrder_eq_lt_iff.1 h) hlt
      | eq => exact absurd (String.toList_inj.1 (Std.LawfulEqCmp.eq_of_compare h)) heq
      | gt => rfl

theorem compare_codePoints (s t : String) : compare (codePoints s) (codePoints t) = codeOrder s.toList t.toList := by
  rw [codePoints, codePoints]
  generalize s.toList = s, t.toList = t
  induction s generalizing t with
  | nil => cases t <;> rfl
  | cons a s ih =>
    cases t with
    | nil => rfl
    | cons b t => rw [List.map_cons, List.map_cons, List.compare_cons_cons, ih, codeOrder]

theorem compare_toNat (x y : UInt8) : compare x y = compare x.toNat y.toNat := by
  show compareOfLessAndEq x y = compareOfLessAndEq x.toNat y.toNat
  simp only [compareOfLessAndEq, UInt8.lt_iff_toNat_lt, UInt8.toNat_inj]

theorem utf8Bytes_eq (s : String) : utf8Bytes s = utf8 s.toList := by
  rw [utf8Bytes, ← String.utf8Encode_toList]
  exact List.toList_data_toByteArray

theorem compare_utf8Bytes (s t : String) : compare (utf8Bytes s) (utf8Bytes t) = codeOrder s.toList t.toList := by
  rw [← byteOrder_utf8, utf8Bytes_eq, utf8Bytes_eq]
  have hbyte : (compare : UInt8 → UInt8 → Ordering) = compareOn UInt8.toNat :=
    funext fun x => funext fun y => compare_toNat x y
  show List.compareLex compare _ _ = List.compareLex _ _ _
  rw [hbyte]

end ResourceCatalog.Text
