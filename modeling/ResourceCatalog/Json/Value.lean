import ResourceCatalog.Json.Tree

/-!
# JSON values

Complete values and their texts: compact, without blanks, and pretty, with one item a line indented
by two blanks.
-/

namespace ResourceCatalog.Json

inductive Value where
  | null
  | truth (b : Bool)
  | integer (n : Int)
  | real (x : Float)
  | text (s : String)
  | list (items : List Value)
  | map (members : List (String × Value))

/-! ## Texts -/

/-- A character as it stands inside quotes. -/
def escapedChar (c : Char) : List Char :=
  match c with
  | '"' => ['\\', '"']
  | '\\' => ['\\', '\\']
  | '\x08' => ['\\', 'b']
  | '\x0c' => ['\\', 'f']
  | '\n' => ['\\', 'n']
  | '\r' => ['\\', 'r']
  | '\t' => ['\\', 't']
  | c =>
    if c.toNat < 0x20 then '\\' :: 'u' :: Text.hexDigits 4 c.toNat else [c]

def quotedChars (s : String) : List Char := '"' :: s.toList.flatMap escapedChar ++ ['"']

def integerChars (n : Int) : List Char :=
  if n < 0 then '-' :: Nat.toDigits 10 n.natAbs else Nat.toDigits 10 n.natAbs

/-- A floating-point number; those that are no numbers are written as `null`. -/
def realChars (x : Float) : List Char :=
  if x.isFinite then (realLayout.text x).toList else ['n', 'u', 'l', 'l']

mutual

/-- The compact text. -/
def Value.chars : Value → List Char
  | .null => ['n', 'u', 'l', 'l']
  | .truth true => ['t', 'r', 'u', 'e']
  | .truth false => ['f', 'a', 'l', 's', 'e']
  | .integer n => integerChars n
  | .real x => realChars x
  | .text s => quotedChars s
  | .list [] => ['[', ']']
  | .list (item :: rest) => '[' :: item.chars ++ itemChars rest ++ [']']
  | .map [] => ['\x7b', '\x7d']
  | .map ((key, value) :: rest) => '\x7b' :: quotedChars key ++ ':' :: value.chars ++ memberChars rest ++ ['\x7d']

def itemChars : List Value → List Char
  | [] => []
  | item :: rest => ',' :: item.chars ++ itemChars rest

def memberChars : List (String × Value) → List Char
  | [] => []
  | (key, value) :: rest => ',' :: quotedChars key ++ ':' :: value.chars ++ memberChars rest

end

def newLine (depth : Nat) : List Char := '\n' :: List.replicate (2 * depth) ' '

mutual

/-- The pretty text of a value that stands `depth` levels deep. -/
def Value.prettyChars (depth : Nat) : Value → List Char
  | .null => ['n', 'u', 'l', 'l']
  | .truth true => ['t', 'r', 'u', 'e']
  | .truth false => ['f', 'a', 'l', 's', 'e']
  | .integer n => integerChars n
  | .real x => realChars x
  | .text s => quotedChars s
  | .list [] => ['[', ']']
  | .list (item :: rest) =>
    '[' :: newLine (depth + 1) ++ item.prettyChars (depth + 1) ++ prettyItemChars (depth + 1) rest ++
      newLine depth ++ [']']
  | .map [] => ['\x7b', '\x7d']
  | .map ((key, value) :: rest) =>
    '\x7b' :: newLine (depth + 1) ++ quotedChars key ++ ':' :: ' ' :: value.prettyChars (depth + 1) ++
      prettyMemberChars (depth + 1) rest ++ newLine depth ++ ['\x7d']

def prettyItemChars (depth : Nat) : List Value → List Char
  | [] => []
  | item :: rest => ',' :: newLine depth ++ item.prettyChars depth ++ prettyItemChars depth rest

def prettyMemberChars (depth : Nat) : List (String × Value) → List Char
  | [] => []
  | (key, value) :: rest =>
    ',' :: newLine depth ++ quotedChars key ++ ':' :: ' ' :: value.prettyChars depth ++
      prettyMemberChars depth rest

end

def Value.compact (v : Value) : String := String.ofList v.chars

def Value.pretty (v : Value) : String := String.ofList (v.prettyChars 0)

/-! ## Values of trees -/

/-- Puts a member into a map that is sorted by key; a key that is there gets the new value. -/
def insertMember (key : String) (value : Value) : List (String × Value) → List (String × Value)
  | [] => [(key, value)]
  | (k, v) :: rest =>
    if key < k then (key, value) :: (k, v) :: rest
    else if key = k then (key, value) :: rest
    else (k, v) :: insertMember key value rest

mutual

/-- The value of a complete tree, maps sorted by key and each key with its last value. -/
def Value.ofTree? : Tree → Option Value
  | .broken => none
  | .null => some .null
  | .truth b => some (.truth b)
  | .number n =>
    match n.value? with
    | some (.natural n) => some (.integer n)
    | some (.negative n) => some (.integer n)
    | some (.real x) => some (.real x)
    | none => none
  | .text s => s.map .text
  | .list items => (itemsOfTrees? items).map .list
  | .map members => (membersOfTrees? [] members).map .map

def itemsOfTrees? : List Tree → Option (List Value)
  | [] => some []
  | item :: rest => do
    let v ← Value.ofTree? item
    let vs ← itemsOfTrees? rest
    return v :: vs

/-- Adds the members to those in `acc`. -/
def membersOfTrees? (acc : List (String × Value)) : List (Tree × Tree) → Option (List (String × Value))
  | [] => some acc
  | (.text (some key), value) :: rest => do
    let v ← Value.ofTree? value
    membersOfTrees? (insertMember key v acc) rest
  | _ :: _ => none

end

/-- Reads a text that holds one value and nothing else. -/
def Value.parse? (text : String) : Option Value :=
  match Tree.ofText text.toList with
  | (tree, []) => Value.ofTree? tree
  | _ => none

mutual

/-- How many lists and maps stand in each other. -/
def Value.depth : Value → Nat
  | .list items => itemsDepth items + 1
  | .map members => membersDepth members + 1
  | _ => 0

def itemsDepth : List Value → Nat
  | [] => 0
  | item :: rest => max item.depth (itemsDepth rest)

def membersDepth : List (String × Value) → Nat
  | [] => 0
  | (_, value) :: rest => max value.depth (membersDepth rest)

end

/-- The value of a member. -/
def Value.get? (v : Value) (key : String) : Option Value :=
  match v with
  | .map members => members.lookup key
  | _ => none

end ResourceCatalog.Json
