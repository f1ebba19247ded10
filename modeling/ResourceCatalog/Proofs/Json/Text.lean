import ResourceCatalog.Json.Reader
import ResourceCatalog.Proofs.Json.Numeral
import ResourceCatalog.Proofs.Json.Quoted
import ResourceCatalog.Proofs.Json.Tree

/-!
# Texts of values

Both texts of a value, the compact and the pretty one, have the tokens of its tree, so that reading either
of them is reading the tree. Floating-point numbers are left out: their texts are not read back exactly.
-/

namespace ResourceCatalog.Json

/-! ## Trees of values -/

mutual

/-- The tree of a value; a floating-point number has none. -/
def Value.tree : Value → Tree
  | .null => .null
  | .truth b => .truth b
  | .integer n => .number (.ofInt n)
  | .real _ => .broken
  | .text s => .text (some s)
  | .list items => .list (itemTrees items)
  | .map members => .map (memberTrees members)

def itemTrees : List Value → List Tree
  | [] => []
  | item :: rest => item.tree :: itemTrees rest

def memberTrees : List (String × Value) → List (Tree × Tree)
  | [] => []
  | (key, value) :: rest => (.text (some key), value.tree) :: memberTrees rest

end

/-! ## Texts and their tokens -/

theorem tokens_space {c : Char} (h : isSpace c = true) (s : List Char) : tokens (c :: s) = tokens s := by
  rw [tokens, if_pos h]

theorem tokens_of_scan {c : Char} {s rest : List Char} {t : Token} (hspace : isSpace c = false)
    (h : scanToken? c s = some (t, rest)) : tokens (c :: s) = t :: tokens rest := by
  rw [tokens, if_neg (by rw [hspace]; exact Bool.false_ne_true)]
  split
  · rename_i heq
    rw [h] at heq
    cases heq
    rfl
  · rename_i heq
    rw [h] at heq
    cases heq

section Marks

variable (s : List Char)

@[simp] theorem tokens_openList : tokens ('[' :: s) = .openList :: tokens s := tokens_of_scan rfl rfl

@[simp] theorem tokens_closeList : tokens (']' :: s) = .closeList :: tokens s := tokens_of_scan rfl rfl

@[simp] theorem tokens_openMap : tokens ('\x7b' :: s) = .openMap :: tokens s := tokens_of_scan rfl rfl

@[simp] theorem tokens_closeMap : tokens ('\x7d' :: s) = .closeMap :: tokens s := tokens_of_scan rfl rfl

@[simp] theorem tokens_comma : tokens (',' :: s) = .comma :: tokens s := tokens_of_scan rfl rfl

@[simp] theorem tokens_colon : tokens (':' :: s) = .colon :: tokens s := tokens_of_scan rfl rfl

@[simp] theorem tokens_blank : tokens (' ' :: s) = tokens s := tokens_space rfl s

@[simp] theorem tokens_newLine (depth : Nat) : tokens (newLine depth ++ s) = tokens s := by
  have hblanks : ∀ n, tokens (List.replicate n ' ' ++ s) = tokens s := by
    intro n
    induction n with
    | zero => rfl
    | succ n ih => rw [List.replicate_succ, List.cons_append, tokens_blank, ih]
  rw [newLine, List.cons_append, tokens_space rfl, hblanks]

@[simp] theorem tokens_quotedChars (key : String) :
    tokens (quotedChars key ++ s) = .text (some key) :: tokens s := by
  have htext : quotedChars key ++ s = '"' :: (key.toList.flatMap escapedChar ++ '"' :: s) := by
    simp [quotedChars]
  rw [htext, tokens_of_scan rfl (scanToken?_quoted key s)]

end Marks

/-- A number may start with the character. -/
def startsNumber (c : Char) : Bool := c.isDigit || c = '-'

theorem integerChars_eq_cons (n : Int) : ∃ c s, integerChars n = c :: s ∧ startsNumber c = true := by
  rw [integerChars]
  split
  · exact ⟨_, _, rfl, rfl⟩
  · cases h : Nat.toDigits 10 n.natAbs with
    | nil => exact absurd h Nat.toDigits_ne_nil
    | cons c s =>
      have hdigit : c.isDigit = true := Text.isDigit_of_mem_toDigits (h ▸ List.mem_cons_self)
      exact ⟨c, s, rfl, by rw [startsNumber, hdigit, Bool.true_or]⟩

theorem isSpace_of_startsNumber {c : Char} (h : startsNumber c = true) : isSpace c = false := by
  cases hspace : isSpace c with
  | false => rfl
  | true =>
    simp only [isSpace, Bool.or_eq_true, decide_eq_true_eq] at hspace
    rcases hspace with ((rfl | rfl) | rfl) | rfl <;> exact absurd h (by decide)

theorem scanToken?_of_startsNumber {c : Char} (h : startsNumber c = true) (rest : List Char) :
    scanToken? c rest = (scanNumber? (c :: rest)).map fun (n, rest) => (.number n, rest) := by
  unfold scanToken?
  split
  iterate 10 exact absurd h (by decide)
  rfl

theorem tokens_integerChars (n : Int) {rest : List Char} (hrest : EndsNumber rest) :
    tokens (integerChars n ++ rest) = .number (.ofInt n) :: tokens rest := by
  obtain ⟨c, s, hs, hc⟩ := integerChars_eq_cons n
  have hnumber : scanNumber? (c :: (s ++ rest)) = some (.ofInt n, rest) := by
    rw [← List.cons_append, ← hs, scanNumber?_integerChars n hrest]
  rw [hs, List.cons_append]
  apply tokens_of_scan (isSpace_of_startsNumber hc)
  rw [scanToken?_of_startsNumber hc, hnumber, Option.map_some]

/-! ## The compact text -/

theorem endsNumber_itemChars (items : List Value) {rest : List Char} (h : EndsNumber rest) :
    EndsNumber (itemChars items ++ rest) := by
  cases items with
  | nil => exact h
  | cons item items => exact endsNumber_cons _ (by decide)

theorem endsNumber_memberChars (members : List (String × Value)) {rest : List Char} (h : EndsNumber rest) :
    EndsNumber (memberChars members ++ rest) := by
  cases members with
  | nil => exact h
  | cons member members => exact endsNumber_cons _ (by decide)

-- By recursion on the value. A number ends only at what follows it, so each statement asks of the rest that it
-- does not go on with a number, and the marks between the parts see to that.
mutual

theorem tokens_chars (v : Value) (h : v.tree.isWhole = true) {rest : List Char} (hrest : EndsNumber rest) :
    tokens (v.chars ++ rest) = v.tree.tokens ++ tokens rest := by
  match v with
  | .real _ => cases h
  | .null => rw [Value.chars, Value.tree, Tree.tokens]; exact tokens_of_scan rfl rfl
  | .truth true => rw [Value.chars, Value.tree, Tree.tokens]; exact tokens_of_scan rfl rfl
  | .truth false => rw [Value.chars, Value.tree, Tree.tokens]; exact tokens_of_scan rfl rfl
  | .integer n => rw [Value.chars, Value.tree, Tree.tokens]; exact tokens_integerChars n hrest
  | .text s => rw [Value.chars, Value.tree, Tree.tokens]; exact tokens_quotedChars rest s
  | .list [] =>
    rw [Value.chars, Value.tree, itemTrees, Tree.tokens]
    simp
  | .list (item :: items) =>
    rw [Value.tree, itemTrees, Tree.isWhole, wholeItems, Bool.and_eq_true] at h
    have hend : EndsNumber (']' :: rest) := endsNumber_cons rest (by decide)
    rw [Value.chars, Value.tree, itemTrees, Tree.tokens]
    simp only [List.cons_append, List.nil_append, List.append_assoc, tokens_openList]
    rw [tokens_chars item h.1 (endsNumber_itemChars items hend), tokens_itemChars items h.2 hend, tokens_closeList]
  | .map [] =>
    rw [Value.chars, Value.tree, memberTrees, Tree.tokens]
    simp
  | .map ((key, value) :: members) =>
    rw [Value.tree, memberTrees, Tree.isWhole, wholeMembers, Bool.and_eq_true] at h
    have hend : EndsNumber ('\x7d' :: rest) := endsNumber_cons rest (by decide)
    rw [Value.chars, Value.tree, memberTrees, Tree.tokens, Tree.tokens]
    simp only [List.cons_append, List.nil_append, List.append_assoc, tokens_openMap, tokens_quotedChars, tokens_colon]
    rw [tokens_chars value h.1 (endsNumber_memberChars members hend), tokens_memberChars members h.2 hend,
      tokens_closeMap]

theorem tokens_itemChars (items : List Value) (h : wholeItems (itemTrees items) = true) {rest : List Char}
    (hrest : EndsNumber rest) :
    tokens (itemChars items ++ rest) = itemTokens (itemTrees items) ++ tokens rest := by
  match items with
  | [] => rw [itemChars, itemTrees, itemTokens]; rfl
  | item :: items =>
    rw [itemTrees, wholeItems, Bool.and_eq_true] at h
    rw [itemChars, itemTrees, itemTokens]
    simp only [List.cons_append, List.append_assoc, tokens_comma]
    rw [tokens_chars item h.1 (endsNumber_itemChars items hrest), tokens_itemChars items h.2 hrest]

theorem tokens_memberChars (members : List (String × Value)) (h : wholeMembers (memberTrees members) = true)
    {rest : List Char} (hrest : EndsNumber rest) :
    tokens (memberChars members ++ rest) = memberTokens (memberTrees members) ++ tokens rest := by
  match members with
  | [] => rw [memberChars, memberTrees, memberTokens]; rfl
  | (key, value) :: members =>
    rw [memberTrees, wholeMembers, Bool.and_eq_true] at h
    rw [memberChars, memberTrees, memberTokens, Tree.tokens]
    simp only [List.cons_append, List.nil_append, List.append_assoc, tokens_comma, tokens_quotedChars, tokens_colon]
    rw [tokens_chars value h.1 (endsNumber_memberChars members hrest), tokens_memberChars members h.2 hrest]

end

/-! ## The pretty text -/

theorem endsNumber_newLine (depth : Nat) (s : List Char) : EndsNumber (newLine depth ++ s) :=
  endsNumber_cons _ (by decide)

theorem endsNumber_prettyItemChars (depth : Nat) (items : List Value) {rest : List Char} (h : EndsNumber rest) :
    EndsNumber (prettyItemChars depth items ++ rest) := by
  cases items with
  | nil => exact h
  | cons item items => exact endsNumber_cons _ (by decide)

theorem endsNumber_prettyMemberChars (depth : Nat) (members : List (String × Value)) {rest : List Char}
    (h : EndsNumber rest) : EndsNumber (prettyMemberChars depth members ++ rest) := by
  cases members with
  | nil => exact h
  | cons member members => exact endsNumber_cons _ (by decide)

-- The same recursion, in which every line break and blank between the parts is passed over.
mutual

theorem tokens_prettyChars (v : Value) (h : v.tree.isWhole = true) (depth : Nat) {rest : List Char}
    (hrest : EndsNumber rest) : tokens (v.prettyChars depth ++ rest) = v.tree.tokens ++ tokens rest := by
  match v with
  | .real _ => cases h
  | .null => rw [Value.prettyChars, Value.tree, Tree.tokens]; exact tokens_of_scan rfl rfl
  | .truth true => rw [Value.prettyChars, Value.tree, Tree.tokens]; exact tokens_of_scan rfl rfl
  | .truth false => rw [Value.prettyChars, Value.tree, Tree.tokens]; exact tokens_of_scan rfl rfl
  | .integer n => rw [Value.prettyChars, Value.tree, Tree.tokens]; exact tokens_integerChars n hrest
  | .text s => rw [Value.prettyChars, Value.tree, Tree.tokens]; exact tokens_quotedChars rest s
  | .list [] =>
    rw [Value.prettyChars, Value.tree, itemTrees, Tree.tokens]
    simp
  | .list (item :: items) =>
    rw [Value.tree, itemTrees, Tree.isWhole, wholeItems, Bool.and_eq_true] at h
    have hend : EndsNumber (newLine depth ++ ']' :: rest) := endsNumber_newLine depth _
    rw [Value.prettyChars, Value.tree, itemTrees, Tree.tokens]
    simp only [List.cons_append, List.nil_append, List.append_assoc, tokens_openList, tokens_newLine]
    rw [tokens_prettyChars item h.1 (depth + 1) (endsNumber_prettyItemChars (depth + 1) items hend),
      tokens_prettyItemChars items h.2 (depth + 1) hend, tokens_newLine, tokens_closeList]
  | .map [] =>
    rw [Value.prettyChars, Value.tree, memberTrees, Tree.tokens]
    simp
  | .map ((key, value) :: members) =>
    rw [Value.tree, memberTrees, Tree.isWhole, wholeMembers, Bool.and_eq_true] at h
    have hend : EndsNumber (newLine depth ++ '\x7d' :: rest) := endsNumber_newLine depth _
    rw [Value.prettyChars, Value.tree, memberTrees, Tree.tokens, Tree.tokens]
    simp only [List.cons_append, List.nil_append, List.append_assoc, tokens_openMap, tokens_newLine,
      tokens_quotedChars, tokens_colon, tokens_blank]
    rw [tokens_prettyChars value h.1 (depth + 1) (endsNumber_prettyMemberChars (depth + 1) members hend),
      tokens_prettyMemberChars members h.2 (depth + 1) hend, tokens_newLine, tokens_closeMap]

theorem tokens_prettyItemChars (items : List Value) (h : wholeItems (itemTrees items) = true) (depth : Nat)
    {rest : List Char} (hrest : EndsNumber rest) :
    tokens (prettyItemChars depth items ++ rest) = itemTokens (itemTrees items) ++ tokens rest := by
  match items with
  | [] => rw [prettyItemChars, itemTrees, itemTokens]; rfl
  | item :: items =>
    rw [itemTrees, wholeItems, Bool.and_eq_true] at h
    rw [prettyItemChars, itemTrees, itemTokens]
    simp only [List.cons_append, List.append_assoc, tokens_comma, tokens_newLine]
    rw [tokens_prettyChars item h.1 depth (endsNumber_prettyItemChars depth items hrest),
      tokens_prettyItemChars items h.2 depth hrest]

theorem tokens_prettyMemberChars (members : List (String × Value))
    (h : wholeMembers (memberTrees members) = true) (depth : Nat) {rest : List Char}
    (hrest : EndsNumber rest) :
    tokens (prettyMemberChars depth members ++ rest) = memberTokens (memberTrees members) ++ tokens rest := by
  match members with
  | [] => rw [prettyMemberChars, memberTrees, memberTokens]; rfl
  | (key, value) :: members =>
    rw [memberTrees, wholeMembers, Bool.and_eq_true] at h
    rw [prettyMemberChars, memberTrees, memberTokens, Tree.tokens]
    simp only [List.cons_append, List.nil_append, List.append_assoc, tokens_comma, tokens_newLine,
      tokens_quotedChars, tokens_colon, tokens_blank]
    rw [tokens_prettyChars value h.1 depth (endsNumber_prettyMemberChars depth members hrest),
      tokens_prettyMemberChars members h.2 depth hrest]

end

/-! ## Reading the texts -/

section Decode

variable {α : Type} (read : Reader α) {v : Value}

theorem decode_of_tokens {s : List Char} {t : Tree} (h : t.isWhole = true) (hs : tokens s = t.tokens) :
    decode read (String.ofList s) = read t := by
  rw [decode, String.toList_ofList, ofText_eq h hs]
  show (read t >>= fun a => .ok a) = read t
  cases read t <;> rfl

theorem decode_compact (h : v.tree.isWhole = true) : decode read v.compact = read v.tree := by
  apply decode_of_tokens read h
  have htokens := tokens_chars v h endsNumber_nil
  rwa [List.append_nil, tokens, List.append_nil] at htokens

theorem decode_pretty (h : v.tree.isWhole = true) : decode read v.pretty = read v.tree := by
  apply decode_of_tokens read h
  have htokens := tokens_prettyChars v h 0 endsNumber_nil
  rwa [List.append_nil, tokens, List.append_nil] at htokens

/-- A line break at the end of the text is passed over. -/
theorem decode_pretty_newline (h : v.tree.isWhole = true) : decode read (v.pretty ++ "\n") = read v.tree := by
  rw [Value.pretty, show "\n" = String.ofList (newLine 0) from rfl, ← String.ofList_append]
  apply decode_of_tokens read h
  have hend := endsNumber_newLine 0 []
  have hblank := tokens_newLine [] 0
  rw [List.append_nil] at hend hblank
  rw [tokens_prettyChars v h 0 hend, hblank, tokens, List.append_nil]

end Decode

end ResourceCatalog.Json
