import ResourceCatalog.Database.Pattern

/-!
# What search patterns match

A pattern is a list of items, and a text matches it if the items can be laid along the text without a gap. In the
pattern of a term every character stands for itself, whatever it means in patterns, so the texts that match are
those that contain the term.
-/

namespace ResourceCatalog.Database

inductive PatternItem where
  | anyText
  | anyChar
  | literal (c : Char)
deriving DecidableEq

namespace PatternItem

/-- The items of a pattern. A backslash takes the meaning from what is behind it, and there has to be something. -/
def ofPattern? : List Char → Option (List PatternItem)
  | [] => some []
  | ['\\'] => none
  | '\\' :: c :: rest => (ofPattern? rest).map (.literal c :: ·)
  | '%' :: rest => (ofPattern? rest).map (.anyText :: ·)
  | '_' :: rest => (ofPattern? rest).map (.anyChar :: ·)
  | c :: rest => (ofPattern? rest).map (.literal c :: ·)

inductive Matches : List PatternItem → List Char → Prop
  | nil : Matches [] []
  | literal {items : List PatternItem} {s : List Char} (c : Char) (h : Matches items s) :
      Matches (.literal c :: items) (c :: s)
  | anyChar {items : List PatternItem} {s : List Char} (c : Char) (h : Matches items s) :
      Matches (.anyChar :: items) (c :: s)
  | anyText {items : List PatternItem} {s : List Char} (covered : List Char) (h : Matches items s) :
      Matches (.anyText :: items) (covered ++ s)

/-! ## Reading -/

theorem ofPattern?_escapedInPattern (c : Char) (rest : List Char) :
    ofPattern? (escapedInPattern c ++ rest) = (ofPattern? rest).map (.literal c :: ·) := by
  unfold escapedInPattern
  split
  · -- The character has a backslash before it.
    rfl
  · rename_i hplain
    obtain ⟨hbackslash, hpercent, hunderscore⟩ : c ≠ '\\' ∧ c ≠ '%' ∧ c ≠ '_' := by
      simpa only [not_or] using hplain
    -- The first four rules ask for one of the three characters.
    rw [List.singleton_append, ofPattern?]
    · exact fun h _ => hbackslash h
    · exact fun _ _ h _ => hbackslash h
    · exact hpercent
    · exact hunderscore

theorem ofPattern?_flatMap (term rest : List Char) :
    ofPattern? (term.flatMap escapedInPattern ++ rest) = (ofPattern? rest).map (term.map .literal ++ ·) := by
  induction term with
  | nil => simp
  | cons c term ih =>
    rw [List.flatMap_cons, List.append_assoc, ofPattern?_escapedInPattern, ih, Option.map_map]
    rfl

theorem ofPattern?_likePattern (term : List Char) :
    ofPattern? (likePattern term) = some (.anyText :: (term.map .literal ++ [.anyText])) := by
  rw [likePattern, List.cons_append, ofPattern?, ofPattern?_flatMap]
  rfl

/-! ## Matching -/

variable {items : List PatternItem} {s : List Char}

theorem matches_anyText_iff :
    Matches (.anyText :: items) s ↔ ∃ covered rest, s = covered ++ rest ∧ Matches items rest := by
  constructor
  · intro h
    cases h with
    | anyText covered h => exact ⟨covered, _, rfl, h⟩
  · rintro ⟨covered, rest, rfl, h⟩
    exact .anyText covered h

theorem matches_anyText (s : List Char) : Matches [.anyText] s :=
  matches_anyText_iff.2 ⟨s, [], (List.append_nil s).symm, .nil⟩

theorem matches_literals_iff {term : List Char} :
    Matches (term.map .literal ++ items) s ↔ ∃ rest, s = term ++ rest ∧ Matches items rest := by
  induction term generalizing s with
  | nil => simp
  | cons c term ih =>
    constructor
    · intro h
      cases h with
      | literal _ h =>
        obtain ⟨rest, rfl, hrest⟩ := ih.1 h
        exact ⟨rest, rfl, hrest⟩
    · rintro ⟨rest, rfl, h⟩
      exact .literal c (ih.2 ⟨rest, rfl, h⟩)

end PatternItem

/-- The pattern of a term can be read, whatever characters the term has, and matches just the texts that contain
the term as it is written. -/
theorem likePattern_matches_iff (term : List Char) :
    ∃ items, PatternItem.ofPattern? (likePattern term) = some items ∧
      ∀ s, PatternItem.Matches items s ↔ term <:+: s := by
  refine ⟨_, PatternItem.ofPattern?_likePattern term, fun s => ?_⟩
  rw [PatternItem.matches_anyText_iff]
  constructor
  · rintro ⟨before, rest, rfl, h⟩
    obtain ⟨after, rfl, -⟩ := PatternItem.matches_literals_iff.1 h
    exact ⟨before, after, List.append_assoc before term after⟩
  · rintro ⟨before, after, rfl⟩
    refine ⟨before, term ++ after, List.append_assoc before term after, ?_⟩
    exact PatternItem.matches_literals_iff.2 ⟨after, rfl, PatternItem.matches_anyText after⟩

end ResourceCatalog.Database
