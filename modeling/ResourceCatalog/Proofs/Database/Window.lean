import ResourceCatalog.Database.Repository
import ResourceCatalog.Proofs.Database.SortKey
import ResourceCatalog.Proofs.Text.Digits

/-!
# Windows

What the end of a statement says about its rows: how they are sorted, how many of them are dropped and how many
are kept, where both numbers are values bound to places. The statement for a page says that the rows are sorted
in the order of the list, and its numbers are those of the link.
-/

namespace ResourceCatalog

namespace Text

/-- The text in front of the last mark, and the text behind it. -/
def cutLast (mark : List Char) : List Char → Option (List Char × List Char)
  | [] => none
  | c :: rest =>
    match cutLast mark rest with
    | some (front, back) => some (c :: front, back)
    | none => if mark.isPrefixOf (c :: rest) then some ([], (c :: rest).drop mark.length) else none

/-- If no mark comes behind a mark, it is the last one, whatever stands in front of it. -/
theorem cutLast_append {mark back : List Char} (h : cutLast mark (mark ++ back) = some ([], back))
    (front : List Char) : cutLast mark (front ++ (mark ++ back)) = some (front, back) := by
  induction front with
  | nil => exact h
  | cons c front ih => rw [List.cons_append, cutLast, ih]

theorem cutLast_eq_none {c : Char} {s : List Char} (h : c ∉ s) (mark : List Char) :
    cutLast (c :: mark) s = none := by
  induction s with
  | nil => rfl
  | cons d s ih =>
    obtain ⟨hne, hs⟩ := not_or.1 (mt List.mem_cons.2 h)
    have hmark : ¬ (c :: mark).isPrefixOf (d :: s) = true := by
      simp [List.isPrefixOf, hne]
    rw [cutLast, ih hs]
    exact if_neg hmark

end Text

namespace Database

/-! ## Places -/

/-- The number of a place, counted from one. -/
def placeNumber? : List Char → Option Nat
  | '$' :: digits => if digits.all Char.isDigit then some (Nat.ofDigitChars 10 digits 0) else none
  | _ => none

/-- The value bound to a place, if it is a number. -/
def Statement.number? (s : Statement) (place : List Char) : Option Int :=
  match placeNumber? place with
  | some (index + 1) =>
    match s.params[index]? with
    | some (.number n) => some n
    | _ => none
  | _ => none

theorem toList_place (n : Nat) : (place n).toList = '$' :: Nat.toDigits 10 n := by
  rw [place, String.toList_append, Nat.toString_eq_repr, Nat.toList_repr]
  rfl

theorem placeNumber?_place (n : Nat) : placeNumber? (place n).toList = some n := by
  have hdigits : (Nat.toDigits 10 n).all Char.isDigit = true :=
    List.all_eq_true.2 fun _ => Text.isDigit_of_mem_toDigits
  rw [toList_place, placeNumber?, if_pos hdigits, Nat.ofDigitChars_ten_toDigits]

theorem Statement.number?_place {s : Statement} {index : Nat} {n : Int}
    (h : s.params[index]? = some (.number n)) : s.number? (place (index + 1)).toList = some n := by
  rw [number?, placeNumber?_place]
  simp only [h]

/-! ## Windows -/

/-- What is done with the rows that satisfy the condition of a statement. -/
structure Window where
  order : Resource → Resource → Ordering
  limit : Int
  offset : Int

/-- The window of a statement, if its text ends in the clauses that sort and cut. -/
def Statement.window? (s : Statement) : Option Window := do
  let (text, offset) ← Text.cutLast " OFFSET ".toList s.sql.toList
  let (text, limit) ← Text.cutLast " LIMIT ".toList text
  let (_, keys) ← Text.cutLast " ORDER BY ".toList text
  return { order := ← orderOf? keys, limit := ← s.number? limit, offset := ← s.number? offset }

theorem cutLast_place {clause : String} (h : clause = " LIMIT " ∨ clause = " OFFSET ") (n : Nat) :
    Text.cutLast clause.toList (clause.toList ++ (place n).toList) = some ([], (place n).toList) := by
  -- A clause starts with a blank, and there is none in the digits of the place.
  have hblank : ' ' ∉ Nat.toDigits 10 n := fun h => absurd (Text.isDigit_of_mem_toDigits h) (by decide)
  have hdigits := Text.cutLast_eq_none hblank
  rw [toList_place]
  rcases h with rfl | rfl <;>
  · rw [String.toList_ofList]
    simp [Text.cutLast, hdigits]

theorem cutLast_orderBy (o : ResourceOrdering) :
    Text.cutLast " ORDER BY ".toList (" ORDER BY ".toList ++ o.sql.toList) = some ([], o.sql.toList) := by
  obtain ⟨p, d⟩ := o
  cases p <;> cases d <;> decide +kernel

theorem toList_pageStatement (scope : ListScope) (tenant : TenantId) (o : ResourceOrdering) (link : PageLink) :
    (pageStatement scope tenant o link).sql.toList =
      (("SELECT ri.* FROM resource_info ri WHERE ".toList ++ (listCondition scope tenant link).1.toList ++
          (" ORDER BY ".toList ++ o.sql.toList)) ++
        (" LIMIT ".toList ++ (place ((listCondition scope tenant link).2.length + 1)).toList)) ++
        (" OFFSET ".toList ++ (place ((listCondition scope tenant link).2.length + 2)).toList) := by
  unfold pageStatement
  iterate 7 rw [String.toList_append]
  iterate 3 rw [← List.append_assoc]

theorem cutLast_pageStatement (scope : ListScope) (tenant : TenantId) (o : ResourceOrdering) (link : PageLink) :
    ∃ front sorted window,
      Text.cutLast " OFFSET ".toList (pageStatement scope tenant o link).sql.toList =
        some (window, (place ((listCondition scope tenant link).2.length + 2)).toList) ∧
      Text.cutLast " LIMIT ".toList window =
        some (sorted, (place ((listCondition scope tenant link).2.length + 1)).toList) ∧
      Text.cutLast " ORDER BY ".toList sorted = some (front, o.sql.toList) := by
  -- The condition stands in front of all three clauses, so what it says does not matter.
  refine ⟨"SELECT ri.* FROM resource_info ri WHERE ".toList ++ (listCondition scope tenant link).1.toList, _, _, ?_,
    Text.cutLast_append (cutLast_place (.inl rfl) _) _, Text.cutLast_append (cutLast_orderBy o) _⟩
  rw [toList_pageStatement]
  exact Text.cutLast_append (cutLast_place (.inr rfl) _) _

/-- The statement for a page sorts in the order of the list, and cuts by the numbers of the link. -/
theorem window?_pageStatement (scope : ListScope) (tenant : TenantId) (o : ResourceOrdering) (link : PageLink) :
    (pageStatement scope tenant o link).window? = some ⟨o.compare, link.limit, link.offset⟩ := by
  have hparams : (pageStatement scope tenant o link).params =
      (listCondition scope tenant link).2 ++ [.number link.limit, .number link.offset] := rfl
  have hlimit : (pageStatement scope tenant o link).params[(listCondition scope tenant link).2.length]? =
      some (.number link.limit) := by
    rw [hparams, List.getElem?_append_right (Nat.le_refl _), Nat.sub_self]
    rfl
  have hoffset : (pageStatement scope tenant o link).params[(listCondition scope tenant link).2.length + 1]? =
      some (.number link.offset) := by
    rw [hparams, List.getElem?_append_right (Nat.le_add_right _ 1), Nat.add_sub_cancel_left]
    rfl
  obtain ⟨front, sorted, window, hwindow, hsorted, hfront⟩ := cutLast_pageStatement scope tenant o link
  rw [Statement.window?, hwindow]
  show (Text.cutLast _ window).bind _ = _
  rw [hsorted]
  show (Text.cutLast _ sorted).bind _ = _
  rw [hfront]
  show (orderOf? _).bind _ = _
  rw [orderOf?_sql, Option.bind_some, Statement.number?_place hlimit, Statement.number?_place hoffset]
  rfl

end Database

end ResourceCatalog
