import ResourceCatalog.Proofs.Id.Bytes
import ResourceCatalog.Proofs.Id.Spelling
import ResourceCatalog.Proofs.Text.Order

/-!
# The order of identifiers

The texts of two identifiers have hyphens at the same places and the digits of their values between them, and digits
come in the order of their values. So the texts are in the order of the identifiers.
-/

namespace ResourceCatalog.Id

open Text (codeOrder codeOrder_append codeOrder_cons_self hexDigit hexDigits length_hexDigits)

theorem codeOrder_hexDigit : ∀ m < 16, ∀ n < 16, codeOrder [hexDigit m] [hexDigit n] = compare m n := by decide

theorem codeOrder_hexDigits (count m n : Nat) :
    codeOrder (hexDigits count m) (hexDigits count n) = compare (m % 16 ^ count) (n % 16 ^ count) := by
  induction count generalizing m n with
  | zero =>
    rw [Nat.pow_zero, Nat.mod_one, Nat.mod_one]
    rfl
  | succ count ih =>
    have hcut : ∀ k, k % 16 ^ (count + 1) = k / 16 % 16 ^ count * 16 + k % 16 := by
      intro k
      rw [Nat.pow_succ', Nat.mod_mul, Nat.add_comm, Nat.mul_comm]
    have hlength : (hexDigits count (m / 16)).length = (hexDigits count (n / 16)).length := by
      rw [length_hexDigits, length_hexDigits]
    have hm : m % 16 < 16 := Nat.mod_lt m (by decide)
    have hn : n % 16 < 16 := Nat.mod_lt n (by decide)
    rw [hexDigits, hexDigits, codeOrder_append hlength, ih, codeOrder_hexDigit _ hm _ hn, hcut, hcut,
      compare_then_compare hm hn]

/-- Hyphens at the same places do not tell texts apart. -/
theorem codeOrder_hyphenated {ds es : List Char} (hds : ds.length = 32) (hes : es.length = 32) :
    codeOrder (hyphenated ds) (hyphenated es) = codeOrder ds es := by
  have hgroup : ∀ n m, ((ds.drop n).take m).length = ((es.drop n).take m).length := by
    intro n m
    rw [List.length_take, List.length_take, List.length_drop, List.length_drop, hds, hes]
  conv => rhs; rw [← groups_append ds, ← groups_append es]
  have hfirst : (ds.take 8).length = (es.take 8).length := hgroup 0 8
  rw [hyphenated, hyphenated, codeOrder_append hfirst, codeOrder_cons_self, codeOrder_append (hgroup 8 4),
    codeOrder_cons_self, codeOrder_append (hgroup 12 4), codeOrder_cons_self, codeOrder_append (hgroup 16 4),
    codeOrder_cons_self, codeOrder_append hfirst, codeOrder_append (hgroup 8 4), codeOrder_append (hgroup 12 4),
    codeOrder_append (hgroup 16 4)]

theorem Uuid.codeOrder_chars (u v : Uuid) : codeOrder u.chars v.chars = u.order v := by
  have hvalue : ∀ w : Uuid, w.value.val % 16 ^ 32 = w.value := fun w => Nat.mod_eq_of_lt w.value.isLt
  rw [Uuid.chars, Uuid.chars, codeOrder_hyphenated (length_hexDigits 32 _) (length_hexDigits 32 _),
    codeOrder_hexDigits, hvalue, hvalue]
  rfl

theorem Uuid.compare_text (u v : Uuid) : compare u.text v.text = u.order v := by
  rw [← Text.codeOrder_toList, Uuid.text, Uuid.text, String.toList_ofList, String.toList_ofList, Uuid.codeOrder_chars]

theorem Uuid.text_inj {u v : Uuid} : u.text = v.text ↔ u = v := by
  constructor
  · intro h
    have hchars : u.chars = v.chars := String.ofList_injective h
    have hparse := u.parse_chars
    rw [hchars, v.parse_chars] at hparse
    cases hparse
    rfl
  · rintro rfl
    rfl

end ResourceCatalog.Id
