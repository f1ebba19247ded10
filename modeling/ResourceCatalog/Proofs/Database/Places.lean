import Mathlib.Data.List.TakeWhile
import ResourceCatalog.Proofs.Database.Transaction
import ResourceCatalog.Proofs.Database.Window

/-!
# Places

The places in the texts of a list and the values bound to them. The numbers of the places run from one to the number
of values, and the texts depend on the scope, on whether there is a search and on the order alone, so nothing that a
caller writes gets into them.
-/

namespace ResourceCatalog.Database

open Text (EndsDigits endsDigits_cons)

/-! ## Places of a text -/

/-- The numbers of the places in a text, from left to right. -/
def places : List Char → List Nat
  | [] => []
  | c :: rest =>
    if c = '$' ∧ rest.takeWhile Char.isDigit ≠ [] then
      Nat.ofDigitChars 10 (rest.takeWhile Char.isDigit) 0 :: places rest
    else places rest

theorem places_append (s : List Char) {t : List Char} (ht : EndsDigits t) : places (s ++ t) = places s ++ places t := by
  induction s with
  | nil => rfl
  | cons c s ih =>
    rw [List.cons_append, places, places, ih, Text.takeWhile_append s ht]
    split <;> rfl

theorem places_append_of_notMem {s : List Char} (h : '$' ∉ s) (t : List Char) : places (s ++ t) = places t := by
  induction s with
  | nil => rfl
  | cons c s ih =>
    obtain ⟨hc, hs⟩ := not_or.1 (mt List.mem_cons.2 h)
    rw [List.cons_append, places, if_neg (fun hplace => hc hplace.1.symm), ih hs]

theorem places_eq_nil {s : List Char} (h : '$' ∉ s) : places s = [] := by
  rw [← List.append_nil s, places_append_of_notMem h]
  rfl

theorem places_place (n : Nat) : places (place n).toList = [n] := by
  have hdigits : ∀ c ∈ Nat.toDigits 10 n, c.isDigit = true := fun _ => Text.isDigit_of_mem_toDigits
  have hdollar : '$' ∉ Nat.toDigits 10 n := fun h => absurd (hdigits _ h) (by decide)
  rw [toList_place, places, List.takeWhile_eq_self_iff.2 hdigits, if_pos ⟨rfl, Nat.toDigits_ne_nil⟩,
    Nat.ofDigitChars_ten_toDigits, places_eq_nil hdollar]

/-- The places are those of the values. -/
def Statement.PlacesFit (s : Statement) : Prop := ∀ n, n ∈ places s.sql.toList ↔ 1 ≤ n ∧ n ≤ s.params.length

theorem placesFit_of_notMem {s : Statement} (hsql : '$' ∉ s.sql.toList) (hparams : s.params = []) : s.PlacesFit := by
  intro n
  rw [places_eq_nil hsql, hparams, List.length_nil]
  exact iff_of_false List.not_mem_nil (by omega)

/-- The value bound to the place with a number. -/
def Statement.bound? (s : Statement) : Nat → Option Param
  | 0 => none
  | index + 1 => s.params[index]?

/-! ## The condition of a list -/

variable {scope : ListScope} {tenant : TenantId} {link : PageLink} {o : ResourceOrdering}

/-- The number of places in the condition of a scope. -/
def scopePlaces : ListScope → Nat
  | .own => 1
  | .visible => 2

/-- The number of places in the condition of a list, with or without a search. -/
def conditionPlaces (scope : ListScope) (searches : Bool) : Nat := scopePlaces scope + searches.toNat

/-- The condition of a list, with or without a search. -/
def conditionText (scope : ListScope) (searches : Bool) : String :=
  scopeCondition scope ++
    if searches then " AND ri.title ILIKE " ++ place (scopePlaces scope + 1) ++ " ESCAPE '\\'" else ""

theorem listCondition_fst (scope : ListScope) (tenant : TenantId) (link : PageLink) :
    (listCondition scope tenant link).1 = conditionText scope link.search.isSome := by
  unfold listCondition conditionText
  cases scope <;> cases link.search <;> rfl

theorem length_listCondition_snd (scope : ListScope) (tenant : TenantId) (link : PageLink) :
    (listCondition scope tenant link).2.length = conditionPlaces scope link.search.isSome := by
  unfold listCondition
  cases scope <;> cases link.search <;> rfl

theorem mem_places_scopeCondition {n : Nat} :
    n ∈ places (scopeCondition scope).toList ↔ 1 ≤ n ∧ n ≤ scopePlaces scope := by
  cases scope with
  | own =>
    have hplaces : places (scopeCondition .own).toList = [1] := by
      unfold scopeCondition
      rw [String.toList_ofList]
      decide
    rw [hplaces, List.mem_singleton, scopePlaces]
    omega
  | visible =>
    -- The tenant stands twice in the condition.
    have hplaces : places (scopeCondition .visible).toList = [1, 2, 1] := by
      unfold scopeCondition
      rw [String.toList_append, String.toList_append]
      iterate 3 rw [String.toList_ofList]
      decide +kernel
    rw [hplaces, scopePlaces]
    simp only [List.mem_cons, List.not_mem_nil, or_false]
    omega

theorem endsDigits_clause {clause : String} (h : clause.toList.head? = some ' ') (t : List Char) :
    EndsDigits (clause.toList ++ t) := by
  obtain ⟨rest, hrest⟩ := List.head?_eq_some_iff.1 h
  rw [hrest, List.cons_append]
  exact endsDigits_cons _ (by decide)

theorem places_searchClause (n : Nat) :
    places (" AND ri.title ILIKE " ++ place n ++ " ESCAPE '\\'").toList = [n] := by
  have hend : EndsDigits (" ESCAPE '\\'".toList ++ []) := endsDigits_clause (by decide) []
  rw [List.append_nil] at hend
  rw [String.toList_append, String.toList_append, places_append _ hend, places_append_of_notMem (by decide),
    places_place, places_eq_nil (by decide), List.append_nil]

theorem mem_places_conditionText {searches : Bool} {n : Nat} :
    n ∈ places (conditionText scope searches).toList ↔ 1 ≤ n ∧ n ≤ conditionPlaces scope searches := by
  cases searches with
  | false =>
    show n ∈ places (scopeCondition scope ++ "").toList ↔ _
    rw [String.append_empty]
    exact mem_places_scopeCondition
  | true =>
    have hclause : EndsDigits (" AND ri.title ILIKE " ++ place (scopePlaces scope + 1) ++ " ESCAPE '\\'").toList := by
      rw [String.toList_append, String.toList_append, List.append_assoc]
      exact endsDigits_clause (by decide) _
    show n ∈ places (scopeCondition scope ++
      (" AND ri.title ILIKE " ++ place (scopePlaces scope + 1) ++ " ESCAPE '\\'")).toList ↔ _
    rw [String.toList_append, places_append _ hclause, places_searchClause, List.mem_append,
      mem_places_scopeCondition, List.mem_singleton, conditionPlaces, Bool.toNat_true]
    omega

/-! ## Statements -/

theorem countStatement_placesFit (scope : ListScope) (tenant : TenantId) (link : PageLink) :
    (countStatement scope tenant link).PlacesFit := by
  intro n
  show n ∈ places ("SELECT COUNT(*) FROM resource_info ri WHERE " ++ (listCondition scope tenant link).1).toList ↔
    1 ≤ n ∧ n ≤ (listCondition scope tenant link).2.length
  rw [String.toList_append, places_append_of_notMem (by decide), listCondition_fst, length_listCondition_snd]
  exact mem_places_conditionText

theorem places_orderBy (o : ResourceOrdering) : places (" ORDER BY ".toList ++ o.sql.toList) = [] := by
  apply places_eq_nil
  obtain ⟨p, d⟩ := o
  cases p <;> cases d <;> decide +kernel

theorem pageStatement_placesFit (scope : ListScope) (tenant : TenantId) (o : ResourceOrdering) (link : PageLink) :
    (pageStatement scope tenant o link).PlacesFit := by
  intro n
  have hlength : (pageStatement scope tenant o link).params.length =
      (listCondition scope tenant link).2.length + 2 := List.length_append
  -- Each clause starts with a blank, where the number of a place in front of it ends.
  rw [toList_pageStatement, places_append _ (endsDigits_clause (by decide) _),
    places_append _ (endsDigits_clause (by decide) _), places_append _ (endsDigits_clause (by decide) _),
    places_append_of_notMem (by decide), places_orderBy, List.append_nil, places_append_of_notMem (by decide),
    places_place, places_append_of_notMem (by decide), places_place, hlength]
  simp only [List.mem_append, List.mem_singleton]
  rw [listCondition_fst, mem_places_conditionText, length_listCondition_snd]
  omega

/-- The values of the condition stand in front: the tenant, the system tenant for the scope that includes it, and the
pattern of a search. -/
structure Statement.Binds (s : Statement) (scope : ListScope) (tenant : TenantId) (link : PageLink) : Prop where
  tenant : s.bound? 1 = some (.uuid tenant.uuid)
  system : s.bound? 2 = some (.uuid TenantId.system.uuid) ↔ scope = .visible
  search : ∀ n pattern, s.bound? n = some (.text pattern) ↔
    n = scopePlaces scope + 1 ∧ ∃ term ∈ link.search, pattern = String.ofList (likePattern term.chars)

/-- What stands at no other place is found at its own one. -/
theorem getElem?_middle_eq_some_iff {α : Type} {front back : List α} {middle : Option α} {a : α} {index : Nat}
    (hfront : a ∉ front) (hback : a ∉ back) :
    (front ++ (middle.toList ++ back))[index]? = some a ↔ index = front.length ∧ middle = some a := by
  rcases Nat.lt_trichotomy index front.length with hlt | rfl | hgt
  · rw [List.getElem?_append_left hlt]
    constructor
    · intro h
      exact absurd (List.mem_of_getElem? h) hfront
    · intro h
      omega
  · rw [List.getElem?_append_right (Nat.le_refl _), Nat.sub_self]
    cases middle with
    | none =>
      constructor
      · intro h
        exact absurd (List.mem_of_getElem? h) hback
      · intro h
        cases h.2
    | some b => simp
  · obtain ⟨n, rfl⟩ := Nat.exists_eq_add_of_lt hgt
    rw [List.getElem?_append_right (by omega), show front.length + n + 1 - front.length = n + 1 by omega]
    constructor
    · intro h
      have hmem : a ∈ back := by
        cases middle with
        | none => exact List.mem_of_getElem? h
        | some b => exact List.mem_of_getElem? h
      exact absurd hmem hback
    · intro h
      omega

theorem listCondition_snd (scope : ListScope) (tenant : TenantId) (link : PageLink) :
    (listCondition scope tenant link).2 = scopeParams scope tenant ++
      (link.search.map fun term => Param.text (String.ofList (likePattern term.chars))).toList := by
  unfold listCondition
  cases link.search <;> rfl

theorem binds_of_params {s : Statement} (numbers : List Int)
    (h : s.params = (listCondition scope tenant link).2 ++ numbers.map Param.number) : s.Binds scope tenant link := by
  rw [listCondition_snd, List.append_assoc] at h
  have hlength : (scopeParams scope tenant).length = scopePlaces scope := by
    cases scope <;> rfl
  refine ⟨?_, ?_, ?_⟩
  · rw [Statement.bound?, h]
    cases scope <;> rfl
  · rw [Statement.bound?, h]
    cases scope with
    | visible => exact iff_of_true rfl rfl
    | own =>
      -- The value at the second place, if there is one, is a pattern or a number.
      refine iff_of_false (fun hsystem => ?_) nofun
      have hmem := List.mem_of_getElem? (i := 0) hsystem
      simp at hmem
  · intro n pattern
    cases n with
    | zero => exact iff_of_false nofun nofun
    | succ index =>
      have hfront : Param.text pattern ∉ scopeParams scope tenant := by
        cases scope <;> simp [scopeParams]
      have hback : Param.text pattern ∉ numbers.map Param.number := by
        simp
      rw [Statement.bound?, h, getElem?_middle_eq_some_iff hfront hback, hlength, Nat.succ_inj]
      cases link.search with
      | none => simp
      | some term => simp [eq_comm]

/-! ## Texts of a list -/

def countText (scope : ListScope) (searches : Bool) : String :=
  "SELECT COUNT(*) FROM resource_info ri WHERE " ++ conditionText scope searches

def pageText (scope : ListScope) (searches : Bool) (o : ResourceOrdering) : String :=
  "SELECT ri.* FROM resource_info ri WHERE " ++ conditionText scope searches ++ " ORDER BY " ++ o.sql ++
    " LIMIT " ++ place (conditionPlaces scope searches + 1) ++
    " OFFSET " ++ place (conditionPlaces scope searches + 2)

/-- The texts that a list sends. -/
def listTexts (scope : ListScope) (searches : Bool) (o : ResourceOrdering) : List String :=
  [beginning.sql, isolation.sql, countText scope searches, pageText scope searches o, commit.sql]

/-- The statements of a list, their texts and their values. -/
structure ListFits (scope : ListScope) (tenant : TenantId) (link : PageLink) (o : ResourceOrdering) : Prop where
  sends : Query.Sends (listStatements scope tenant link o) (list scope tenant link)
  texts : (listStatements scope tenant link o).map Statement.sql = listTexts scope link.search.isSome o
  places : ∀ s ∈ listStatements scope tenant link o, s.PlacesFit
  count : (countStatement scope tenant link).Binds scope tenant link
  page : (pageStatement scope tenant o link).Binds scope tenant link
  limit : (pageStatement scope tenant o link).bound? (conditionPlaces scope link.search.isSome + 1) =
    some (.number link.pageSize)
  offset : (pageStatement scope tenant o link).bound? (conditionPlaces scope link.search.isSome + 2) =
    some (.number (link.page * link.pageSize))
  values : (pageStatement scope tenant o link).params =
    (countStatement scope tenant link).params ++ [.number link.pageSize, .number (link.page * link.pageSize)]

theorem listFits_of_ofLink (ho : ResourceOrdering.ofLink link = .ok o) : ListFits scope tenant link o := by
  have hparams : (pageStatement scope tenant o link).params = (listCondition scope tenant link).2 ++
      [.number link.pageSize, .number (link.page * link.pageSize : Nat)] := rfl
  have hlength := length_listCondition_snd scope tenant link
  have htexts : (listStatements scope tenant link o).map Statement.sql = listTexts scope link.search.isSome o := by
    unfold listStatements listTexts countText pageText
    rw [← listCondition_fst scope tenant link, ← hlength]
    rfl
  have hplaces : ∀ s ∈ listStatements scope tenant link o, s.PlacesFit := by
    unfold listStatements
    simp only [List.forall_mem_cons]
    exact ⟨placesFit_of_notMem (by decide) rfl, placesFit_of_notMem (by decide) rfl,
      countStatement_placesFit scope tenant link, pageStatement_placesFit scope tenant o link,
      placesFit_of_notMem (by decide) rfl, nofun⟩
  -- Limit and offset stand behind the values of the condition.
  have hbehind (i : Nat) (param : Param) (h : [Param.number link.pageSize,
      .number (link.page * link.pageSize : Nat)][i]? = some param) :
      (pageStatement scope tenant o link).bound? (conditionPlaces scope link.search.isSome + i + 1) = some param := by
    rw [Statement.bound?, hparams, ← hlength, List.getElem?_append_right (Nat.le_add_right _ i),
      Nat.add_sub_cancel_left, h]
  exact {
    sends := (list_keepsTo ho).sends
    texts := htexts
    places := hplaces
    count := binds_of_params [] (List.append_nil _).symm
    page := binds_of_params [link.pageSize, (link.page * link.pageSize : Nat)] hparams
    limit := hbehind 0 _ rfl
    offset := hbehind 1 _ rfl
    values := rfl }

/-- The statements of a list hold a value for each place, and no text of a caller: lists of any tenants, pages and
searches have the same texts if they agree on the scope, on having a search and on the order. -/
theorem list_statements_fit (ho : ResourceOrdering.ofLink link = .ok o) (scope : ListScope) (tenant : TenantId) :
    ListFits scope tenant link o ∧
      ∀ tenant' link', ResourceOrdering.ofLink link' = .ok o → link'.search.isSome = link.search.isSome →
        ListFits scope tenant' link' o ∧
          (listStatements scope tenant' link' o).map Statement.sql =
            (listStatements scope tenant link o).map Statement.sql := by
  have hfits : ListFits scope tenant link o := listFits_of_ofLink ho
  refine ⟨hfits, fun tenant' link' ho' hsearch => ?_⟩
  have hfits' : ListFits scope tenant' link' o := listFits_of_ofLink ho'
  rw [hfits.texts, hfits'.texts, hsearch]
  exact ⟨hfits', rfl⟩

/-! ## A sample -/

/-- The link to the fourth page of seven rows each. -/
def searching (text property : String) : PageLink :=
  { pageSize := 7, page := 3, search := SearchTerm.ofChars? text.toList, sortOrder := some ⟨property, .desc⟩,
    pageSize_mem := by decide, page_le := by decide }

/-- Searches for what looks like a place and for what looks like the end of a text, with two names of one order. -/
theorem list_statements_fit_sample :
    ResourceOrdering.ofLink (searching "$9" "createdAt") = .ok ⟨.createdTime, .desc⟩ ∧
      ResourceOrdering.ofLink (searching "%' OR 1=1 --" " created_time ") = .ok ⟨.createdTime, .desc⟩ ∧
      ListFits .visible .system (searching "$9" "createdAt") ⟨.createdTime, .desc⟩ ∧
      (listStatements .visible ⟨⟨⟨7, by decide⟩⟩⟩ (searching "%' OR 1=1 --" " created_time ")
          ⟨.createdTime, .desc⟩).map Statement.sql =
        (listStatements .visible .system (searching "$9" "createdAt") ⟨.createdTime, .desc⟩).map Statement.sql := by
  have horder : ResourceOrdering.ofLink (searching "$9" "createdAt") = .ok ⟨.createdTime, .desc⟩ := by rfl
  have horder' : ResourceOrdering.ofLink (searching "%' OR 1=1 --" " created_time ") = .ok ⟨.createdTime, .desc⟩ := by
    rfl
  obtain ⟨hfits, htexts⟩ := list_statements_fit horder .visible .system
  exact ⟨horder, horder', hfits, (htexts _ _ horder' (by decide)).2⟩

end ResourceCatalog.Database
