import ResourceCatalog.Json.Token

/-!
# JSON trees

The tokens of a text form a tree as far as they go. Where the text stops being well-formed the tree
has a `broken` leaf, after which nothing more is in it, so that a reader who goes through the tree
in order meets the first problem of the text first.
-/

namespace ResourceCatalog.Json

/-- What was read of a text. A member whose key is no text holds what stood in the key's place and a
broken value. -/
inductive Tree where
  | broken
  | null
  | truth (b : Bool)
  | number (n : Numeral)
  | text (s : Option String)
  | list (items : List Tree)
  | map (members : List (Tree × Tree))

/-- An enclosing value that is not complete: what it holds so far, last first, and the key of the
member that is being read. -/
inductive Frame where
  | list (done : List Tree)
  | member (done : List (Tree × Tree)) (key : Tree)

/-- What may come next, inside which enclosing values. -/
inductive Expecting where
  | value (frames : List Frame)
  | firstItem (frames : List Frame)
  | nextItem (done : List Tree) (frames : List Frame)
  | firstKey (frames : List Frame)
  | laterKey (done : List (Tree × Tree)) (frames : List Frame)
  | colon (done : List (Tree × Tree)) (key : Tree) (frames : List Frame)
  | nextMember (done : List (Tree × Tree)) (frames : List Frame)

/-- What one token leads to. -/
inductive Step where
  | go (next : Expecting)
  | finished (tree : Tree)
  | stop

/-- The value that one token is. -/
def Token.scalar? : Token → Option Tree
  | .null => some .null
  | .truth b => some (.truth b)
  | .number n => some (.number n)
  | .text s => some (.text s)
  | _ => none

/-- Puts a complete value into the innermost enclosing value. -/
def deliver (tree : Tree) : List Frame → Step
  | [] => .finished tree
  | .list done :: frames => .go (.nextItem (tree :: done) frames)
  | .member done key :: frames => .go (.nextMember ((key, tree) :: done) frames)

/-- The step on the first token of a value. -/
def beginValue (frames : List Frame) : Token → Step
  | .openList => .go (.firstItem frames)
  | .openMap => .go (.firstKey frames)
  | t =>
    match t.scalar? with
    | some tree => deliver tree frames
    | none => .stop

/-- The step on the key of a member. -/
def beginMember (done : List (Tree × Tree)) (frames : List Frame) : Token → Step
  | .text s => .go (.colon done (.text s) frames)
  | _ => .stop

def Expecting.step : Expecting → Token → Step
  | .value frames, t => beginValue frames t
  | .firstItem frames, .closeList => deliver (.list []) frames
  | .firstItem frames, t => beginValue (.list [] :: frames) t
  | .nextItem done frames, .comma => .go (.value (.list done :: frames))
  | .nextItem done frames, .closeList => deliver (.list done.reverse) frames
  | .nextItem _ _, _ => .stop
  | .firstKey frames, .closeMap => deliver (.map []) frames
  | .firstKey frames, t => beginMember [] frames t
  | .laterKey done frames, t => beginMember done frames t
  | .colon done key frames, .colon => .go (.value (.member done key :: frames))
  | .colon _ _ _, _ => .stop
  | .nextMember done frames, .comma => .go (.laterKey done frames)
  | .nextMember done frames, .closeMap => deliver (.map done.reverse) frames
  | .nextMember _ _, _ => .stop

/-! ## Where the text breaks off -/

/-- Ends every enclosing value with what was read of its last part. -/
def closeAll (tree : Tree) : List Frame → Tree
  | [] => tree
  | .list done :: frames => closeAll (.list (done.reverse ++ [tree])) frames
  | .member done key :: frames => closeAll (.map (done.reverse ++ [(key, tree)])) frames

/-- What stands in the place of a key. -/
def misplaced : Option Token → Tree
  | some .openList => .list [.broken]
  | some .openMap => .map [(.broken, .broken)]
  | some t => t.scalar?.getD .broken
  | none => .broken

/-- The tree of a text that breaks off, at the given token or at its end. -/
def Expecting.cut : Expecting → Option Token → Tree
  | .value frames, _ => closeAll .broken frames
  | .firstItem frames, _ => closeAll (.list [.broken]) frames
  | .nextItem done frames, _ => closeAll (.list (done.reverse ++ [.broken])) frames
  | .firstKey frames, t => closeAll (.map [(misplaced t, .broken)]) frames
  | .laterKey done frames, t => closeAll (.map (done.reverse ++ [(misplaced t, .broken)])) frames
  | .colon done key frames, _ => closeAll (.map (done.reverse ++ [(key, .broken)])) frames
  | .nextMember done frames, _ => closeAll (.map (done.reverse ++ [(.broken, .broken)])) frames

/-- The tree of a token sequence, and the tokens behind it. -/
def Expecting.run : Expecting → List Token → Tree × List Token
  | expecting, [] => (expecting.cut none, [])
  | expecting, t :: rest =>
    match expecting.step t with
    | .go next => next.run rest
    | .finished tree => (tree, rest)
    | .stop => (expecting.cut (some t), [])

/-- The tree of a text, and the tokens behind it. -/
def Tree.ofText (s : List Char) : Tree × List Token := (Expecting.value []).run (tokens s)

/-! ## Whole trees -/

mutual

/-- The value is well-formed to its end. -/
def Tree.isWhole : Tree → Bool
  | .broken => false
  | .list items => wholeItems items
  | .map members => wholeMembers members
  | _ => true

def wholeItems : List Tree → Bool
  | [] => true
  | item :: rest => item.isWhole && wholeItems rest

def wholeMembers : List (Tree × Tree) → Bool
  | [] => true
  | (.text _, value) :: rest => value.isWhole && wholeMembers rest
  | _ :: _ => false

end

end ResourceCatalog.Json
