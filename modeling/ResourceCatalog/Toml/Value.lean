import ResourceCatalog.Toml.Moment
import ResourceCatalog.Toml.Number

/-!
# Values in TOML

Values as they are written. A table in braces is kept as the pairs of its text, whose keys may be paths;
what they form together is the matter of documents.
-/

namespace ResourceCatalog.Toml

/-- The names of a dotted key. -/
abbrev Key := List String

inductive Written where
  | text (s : String)
  | integer (n : Int)
  | real (x : Float)
  | truth (b : Bool)
  | moment (text : String)
  | list (items : List Written)
  | braces (pairs : List (Key × Written))

/-! ## Keys -/

/-- One name of a key, bare or quoted. -/
def scanName? : Scan String := fun s =>
  let bare := s.takeWhile Text.isNameChar
  if bare = [] then scanQuotedLine? s else some (String.ofList bare, s.dropWhile Text.isNameChar)

/-- How many names a key may have, and how many lists and tables in braces may stand in each other. -/
def deepest : Nat := 80

/-- A key of no more than `limit` names. Spaces may stand around its points and behind it. -/
def scanNames? : Nat → Scan Key
  | 0, _ => none
  | limit + 1, s => do
    let (name, rest) ← scanName? (skipSpaces s)
    match skipSpaces rest with
    | '.' :: rest =>
      let (names, rest) ← scanNames? limit rest
      return (name :: names, rest)
    | rest => return ([name], rest)

def scanKey? : Scan Key := scanNames? deepest

/-! ## Blanks and comments -/

/-- What follows a comment; there must be no controls in it. -/
def skipComment? : List Char → Option (List Char)
  | '#' :: rest =>
    let rest := rest.dropWhile fun c => !isControl c
    match rest with
    | [] => some []
    | _ => if (afterNewline? rest).isSome then some rest else none
  | s => some s

/-- What follows blanks, line ends and comments. -/
def skipLines? : Nat → List Char → Option (List Char)
  | 0, s => some s
  | fuel + 1, s => do
    let s ← skipComment? (skipSpaces s)
    match afterNewline? s with
    | some rest => skipLines? fuel rest
    | none => some s

/-! ## Values -/

def isTokenChar (c : Char) : Bool := c.isAlphanum || c = '_' || c = '-' || c = '+' || c = '.' || c = ':'

/-- A value that is neither quoted nor in brackets or braces. -/
def scanPlain? : Scan Written := fun s =>
  let token := s.takeWhile isTokenChar
  let rest := s.dropWhile isTokenChar
  match String.ofList token, integer? token, real? token with
  | "true", _, _ => some (.truth true, rest)
  | "false", _, _ => some (.truth false, rest)
  | _, some n, _ => some (.integer n, rest)
  | _, none, some x => some (.real x, rest)
  | _, none, none => (scanMoment? s).map fun (text, rest) => (.moment text, rest)

mutual

/-- A value. -/
def scanValue? : Nat → Scan Written
  | 0, _ => none
  | fuel + 1, s =>
    match s with
    | '[' :: rest => (scanItems? fuel rest).map fun (items, rest) => (.list items, rest)
    | '\x7b' :: rest => (scanPairs? fuel rest).map fun (pairs, rest) => (.braces pairs, rest)
    | c :: _ =>
      if c = '"' ∨ c = '\'' then (scanQuoted? s).map fun (text, rest) => (.text text, rest)
      else scanPlain? s
    | [] => none

/-- The items of a list up to its closing bracket, which a comma may precede. -/
def scanItems? : Nat → Scan (List Written)
  | 0, _ => none
  | fuel + 1, s => do
    match ← skipLines? s.length s with
    | ']' :: rest => return ([], rest)
    | s =>
      let (item, rest) ← scanValue? fuel s
      match ← skipLines? rest.length rest with
      | ',' :: rest =>
        let (items, rest) ← scanItems? fuel rest
        return (item :: items, rest)
      | ']' :: rest => return ([item], rest)
      | _ => none

/-- The pairs of a table in braces up to the closing one, which a comma may precede. -/
def scanPairs? : Nat → Scan (List (Key × Written))
  | 0, _ => none
  | fuel + 1, s => do
    match ← skipLines? s.length s with
    | '\x7d' :: rest => return ([], rest)
    | s =>
      let (key, rest) ← scanKey? s
      let ((), rest) ← scanChar? '=' (← skipLines? rest.length rest)
      let (value, rest) ← scanValue? fuel (← skipLines? rest.length rest)
      match ← skipLines? rest.length rest with
      | ',' :: rest =>
        let (pairs, rest) ← scanPairs? fuel rest
        return ((key, value) :: pairs, rest)
      | '\x7d' :: rest => return ([(key, value)], rest)
      | _ => none

end

/-! ## Depth -/

mutual

/-- How many lists and tables in braces stand in each other. -/
def Written.depth : Written → Nat
  | .list items => itemsDepth items + 1
  | .braces pairs => pairsDepth pairs + 1
  | _ => 0

def itemsDepth : List Written → Nat
  | [] => 0
  | item :: rest => max item.depth (itemsDepth rest)

def pairsDepth : List (Key × Written) → Nat
  | [] => 0
  | (_, value) :: rest => max value.depth (pairsDepth rest)

end

end ResourceCatalog.Toml
