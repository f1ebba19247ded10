import ResourceCatalog.Text.Lowercase

/-!
# Lower-casing pieces

A piece of a text is lower-cased by itself but for its capital sigmas, whose form depends on the letters
around them. Where each of them has the form that it has in the piece alone, and only there, the lower-case
form of the piece stands in that of the text at the place of the piece.
-/

namespace ResourceCatalog.Text

/-- A sigma between `before` (last character first) and `after` ends its word. -/
def endsWord (before after : List Char) : Bool := meetsCased before && !meetsCased after

/-- Lower-cases the second list, which stands between `before` (last character first) and `after`. -/
def lowerWithin (before : List Char) : List Char → List Char → List Char
  | [], _ => []
  | c :: rest, after => lowerBetween before c (rest ++ after) ++ lowerWithin (c :: before) rest after

/-- Each capital sigma of `piece` has the form between `before` and `after` that it has in `piece` alone. -/
def SigmasAgree (before piece after : List Char) : Prop :=
  ∀ s t, piece = s ++ 'Σ' :: t →
    endsWord (s.reverse ++ before.reverse) (t ++ after) = endsWord s.reverse t

theorem lowerAfter_eq_lowerWithin (before s : List Char) : lowerAfter before s = lowerWithin before s [] := by
  induction s generalizing before with
  | nil => rfl
  | cons c rest ih => rw [lowerAfter, lowerWithin, ih, List.append_nil]

theorem lowerWithin_append (before s t after : List Char) :
    lowerWithin before (s ++ t) after =
      lowerWithin before s (t ++ after) ++ lowerWithin (s.reverse ++ before) t after := by
  induction s generalizing before with
  | nil => rfl
  | cons c s ih =>
    rw [List.cons_append, lowerWithin, lowerWithin, ih, List.reverse_cons, List.append_assoc, List.append_assoc,
      List.append_assoc, List.singleton_append]

/-- The parts of a text are lower-cased one by one, each between the others. -/
theorem lowercase_append (before piece after : List Char) :
    lowercase (before ++ (piece ++ after)) = lowerWithin [] before (piece ++ after) ++
      (lowerWithin before.reverse piece after ++ lowerWithin (piece.reverse ++ before.reverse) after []) := by
  rw [lowercase, lowerAfter_eq_lowerWithin, lowerWithin_append, lowerWithin_append, List.append_nil,
    List.append_nil, List.append_nil]

/-! ## What depends on the letters around -/

theorem length_lowerBetween (before after before' after' : List Char) (c : Char) :
    (lowerBetween before c after).length = (lowerBetween before' c after').length := by
  unfold lowerBetween
  split
  · rfl
  · rfl

theorem lowerBetween_eq_iff {before after before' after' : List Char} {c : Char} :
    lowerBetween before c after = lowerBetween before' c after' ↔
      (c = 'Σ' → endsWord before after = endsWord before' after') := by
  unfold lowerBetween
  by_cases hsigma : c = 'Σ'
  · rw [if_pos hsigma, if_pos hsigma, forall_prop_of_true hsigma]
    show [if endsWord before after then 'ς' else 'σ'] = [if endsWord before' after' then 'ς' else 'σ'] ↔ _
    cases endsWord before after <;> cases endsWord before' after' <;> decide
  · rw [if_neg hsigma, if_neg hsigma]
    exact ⟨fun _ h => absurd h hsigma, fun _ => rfl⟩

theorem length_lowerWithin (before after before' after' s : List Char) :
    (lowerWithin before s after).length = (lowerWithin before' s after').length := by
  induction s generalizing before before' with
  | nil => rfl
  | cons c s ih =>
    rw [lowerWithin, lowerWithin, List.length_append, List.length_append, ih (c :: before) (c :: before'),
      length_lowerBetween before (s ++ after) before' (s ++ after')]

theorem forall_split_cons {c d : Char} {rest : List Char} {P : List Char → List Char → Prop} :
    (∀ s t, c :: rest = s ++ d :: t → P s t) ↔ (c = d → P [] rest) ∧ ∀ s t, rest = s ++ d :: t → P (c :: s) t := by
  constructor
  · intro h
    exact ⟨fun hc => h [] rest (by rw [hc]; rfl), fun s t hrest => h (c :: s) t (by rw [hrest]; rfl)⟩
  · rintro ⟨hhead, htail⟩ s t heq
    cases s with
    | nil =>
      obtain ⟨hc, rfl⟩ := List.cons.inj heq
      exact hhead hc
    | cons e s =>
      obtain ⟨rfl, hrest⟩ := List.cons.inj heq
      exact htail s t hrest

theorem lowerWithin_eq_iff {before after before' after' s : List Char} :
    lowerWithin before s after = lowerWithin before' s after' ↔
      ∀ u v, s = u ++ 'Σ' :: v →
        endsWord (u.reverse ++ before) (v ++ after) = endsWord (u.reverse ++ before') (v ++ after') := by
  induction s generalizing before before' with
  | nil => simp [lowerWithin]
  | cons c s ih =>
    have hlength := length_lowerBetween before (s ++ after) before' (s ++ after') c
    rw [lowerWithin, lowerWithin, forall_split_cons]
    constructor
    · intro h
      obtain ⟨hhead, htail⟩ := List.append_inj h hlength
      exact ⟨lowerBetween_eq_iff.1 hhead, fun u v hs => by simpa using ih.1 htail u v hs⟩
    · rintro ⟨hhead, htail⟩
      have hrest : lowerWithin (c :: before) s after = lowerWithin (c :: before') s after' :=
        ih.2 fun u v hs => by simpa using htail u v hs
      have hletter : lowerBetween before c (s ++ after) = lowerBetween before' c (s ++ after') :=
        lowerBetween_eq_iff.2 hhead
      rw [hletter, hrest]

theorem lowerWithin_eq_lowercase_iff {before piece after : List Char} :
    lowerWithin before.reverse piece after = lowercase piece ↔ SigmasAgree before piece after := by
  rw [lowercase, lowerAfter_eq_lowerWithin, lowerWithin_eq_iff]
  simp only [List.append_nil]
  rfl

instance (before piece after : List Char) : Decidable (SigmasAgree before piece after) :=
  decidable_of_iff _ lowerWithin_eq_lowercase_iff

/-! ## Pieces of a text -/

/-- At the place of a piece the lower-case text goes on with the lower-case piece just if the capital sigmas of
the piece have the same forms in both. -/
theorem isPrefix_drop_lowercase_iff {before piece after : List Char} :
    lowercase piece <+: (lowercase (before ++ (piece ++ after))).drop (lowercase before).length ↔
      SigmasAgree before piece after := by
  have hfront : (lowercase before).length = (lowerWithin [] before (piece ++ after)).length := by
    rw [lowercase, lowerAfter_eq_lowerWithin]
    exact length_lowerWithin _ _ _ _ _
  have hpiece : (lowercase piece).length = (lowerWithin before.reverse piece after).length := by
    rw [lowercase, lowerAfter_eq_lowerWithin]
    exact length_lowerWithin _ _ _ _ _
  rw [lowercase_append, hfront, List.drop_left, ← lowerWithin_eq_lowercase_iff]
  constructor
  · intro h
    have hstart := List.prefix_of_prefix_length_le h (List.prefix_append _ _) (Nat.le_of_eq hpiece)
    exact (hstart.eq_of_length hpiece).symm
  · intro h
    rw [h]
    exact List.prefix_append _ _

theorem isInfix_lowercase {before piece after : List Char} (h : SigmasAgree before piece after) :
    lowercase piece <:+: lowercase (before ++ (piece ++ after)) := by
  rw [lowercase_append, lowerWithin_eq_lowercase_iff.2 h, ← List.append_assoc]
  exact List.infix_append _ _ _

end ResourceCatalog.Text
