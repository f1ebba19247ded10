import ResourceCatalog.Json.Tree

/-!
# Tokens of trees

The tokens that spell a complete tree are read back as the tree, inside any enclosing values and whatever
tokens follow.
-/

namespace ResourceCatalog.Json

mutual

/-- The tokens of a complete tree. -/
def Tree.tokens : Tree → List Token
  | .broken => [.bad]
  | .null => [.null]
  | .truth b => [.truth b]
  | .number n => [.number n]
  | .text s => [.text s]
  | .list [] => [.openList, .closeList]
  | .list (item :: rest) => .openList :: (item.tokens ++ (itemTokens rest ++ [.closeList]))
  | .map [] => [.openMap, .closeMap]
  | .map ((key, value) :: rest) =>
    .openMap :: (key.tokens ++ .colon :: (value.tokens ++ (memberTokens rest ++ [.closeMap])))

def itemTokens : List Tree → List Token
  | [] => []
  | item :: rest => .comma :: (item.tokens ++ itemTokens rest)

def memberTokens : List (Tree × Tree) → List Token
  | [] => []
  | (key, value) :: rest => .comma :: (key.tokens ++ .colon :: (value.tokens ++ memberTokens rest))

end

theorem wholeMembers_cons {key value : Tree} {rest : List (Tree × Tree)}
    (h : wholeMembers ((key, value) :: rest) = true) :
    (∃ s, key = .text s) ∧ value.isWhole = true ∧ wholeMembers rest = true := by
  cases key with
  | text s =>
    rw [wholeMembers, Bool.and_eq_true] at h
    exact ⟨⟨s, rfl⟩, h⟩
  | _ => cases h

/-- How reading goes on behind a complete value. -/
def resumed (tree : Tree) : List Frame → List Token → Tree × List Token
  | [], rest => (tree, rest)
  | .list done :: frames, rest => (Expecting.nextItem (tree :: done) frames).run rest
  | .member done key :: frames, rest => (Expecting.nextMember ((key, tree) :: done) frames).run rest

theorem run_eq_resumed {e : Expecting} {t : Token} {tree : Tree} {frames : List Frame}
    (h : e.step t = deliver tree frames) (rest : List Token) : e.run (t :: rest) = resumed tree frames rest := by
  rw [Expecting.run, h]
  cases frames with
  | nil => rfl
  | cons frame frames => cases frame <;> rfl

/-- The first item of a list is read like any value: a value does not start with a closing bracket. -/
theorem run_firstItem {item : Tree} (h : item.isWhole = true) (frames : List Frame) (rest : List Token) :
    (Expecting.firstItem frames).run (item.tokens ++ rest) =
      (Expecting.value (.list [] :: frames)).run (item.tokens ++ rest) := by
  cases item with
  | broken => cases h
  | list items => cases items <;> rw [Tree.tokens] <;> rfl
  | map members => cases members <;> rw [Tree.tokens] <;> rfl
  | null | truth | number | text => rw [Tree.tokens]; rfl

-- By recursion on the tree, in any frames: a complete value goes to the innermost frame, where the items or
-- members that are left are read behind those that are done.
mutual

theorem run_tokens (t : Tree) (h : t.isWhole = true) (frames : List Frame) (rest : List Token) :
    (Expecting.value frames).run (t.tokens ++ rest) = resumed t frames rest := by
  match t with
  | .broken => cases h
  | .null | .truth _ | .number _ | .text _ => rw [Tree.tokens]; exact run_eq_resumed rfl rest
  | .list [] => rw [Tree.tokens]; exact run_eq_resumed rfl rest
  | .list (item :: items) =>
    rw [Tree.isWhole, wholeItems, Bool.and_eq_true] at h
    rw [Tree.tokens, List.cons_append, List.append_assoc, List.append_assoc]
    show (Expecting.firstItem frames).run (item.tokens ++ (itemTokens items ++ .closeList :: rest)) = _
    rw [run_firstItem h.1, run_tokens item h.1]
    exact run_itemTokens items h.2 [item] frames rest
  | .map [] => rw [Tree.tokens]; exact run_eq_resumed rfl rest
  | .map ((key, value) :: members) =>
    rw [Tree.isWhole] at h
    obtain ⟨⟨s, rfl⟩, hvalue, hmembers⟩ := wholeMembers_cons h
    rw [Tree.tokens, Tree.tokens]
    simp only [List.cons_append, List.nil_append, List.append_assoc]
    show (Expecting.value (.member [] (.text s) :: frames)).run
      (value.tokens ++ (memberTokens members ++ .closeMap :: rest)) = _
    rw [run_tokens value hvalue]
    exact run_memberTokens members hmembers [(.text s, value)] frames rest

theorem run_itemTokens (items : List Tree) (h : wholeItems items = true) (done : List Tree)
    (frames : List Frame) (rest : List Token) :
    (Expecting.nextItem done frames).run (itemTokens items ++ .closeList :: rest) =
      resumed (.list (done.reverse ++ items)) frames rest := by
  match items with
  | [] =>
    rw [itemTokens, List.append_nil]
    exact run_eq_resumed rfl rest
  | item :: items =>
    rw [wholeItems, Bool.and_eq_true] at h
    rw [itemTokens, List.cons_append, List.append_assoc]
    show (Expecting.value (.list done :: frames)).run (item.tokens ++ (itemTokens items ++ .closeList :: rest)) = _
    rw [run_tokens item h.1]
    show (Expecting.nextItem (item :: done) frames).run (itemTokens items ++ .closeList :: rest) = _
    rw [run_itemTokens items h.2, List.reverse_cons, List.append_assoc, List.singleton_append]

theorem run_memberTokens (members : List (Tree × Tree)) (h : wholeMembers members = true)
    (done : List (Tree × Tree)) (frames : List Frame) (rest : List Token) :
    (Expecting.nextMember done frames).run (memberTokens members ++ .closeMap :: rest) =
      resumed (.map (done.reverse ++ members)) frames rest := by
  match members with
  | [] =>
    rw [memberTokens, List.append_nil]
    exact run_eq_resumed rfl rest
  | (key, value) :: members =>
    obtain ⟨⟨s, rfl⟩, hvalue, hmembers⟩ := wholeMembers_cons h
    rw [memberTokens, Tree.tokens]
    simp only [List.cons_append, List.nil_append, List.append_assoc]
    show (Expecting.value (.member done (.text s) :: frames)).run
      (value.tokens ++ (memberTokens members ++ .closeMap :: rest)) = _
    rw [run_tokens value hvalue]
    show (Expecting.nextMember ((.text s, value) :: done) frames).run
      (memberTokens members ++ .closeMap :: rest) = _
    rw [run_memberTokens members hmembers, List.reverse_cons, List.append_assoc, List.singleton_append]

end

/-- A text whose tokens are those of a complete tree is read as the tree, up to its end. -/
theorem ofText_eq {s : List Char} {t : Tree} (h : t.isWhole = true) (hs : tokens s = t.tokens) :
    Tree.ofText s = (t, []) := by
  rw [Tree.ofText, hs, ← List.append_nil t.tokens, run_tokens t h]
  rfl

end ResourceCatalog.Json
