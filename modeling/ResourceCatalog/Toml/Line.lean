import ResourceCatalog.Toml.Value

/-! The lines of a TOML text: the headings of tables, and pairs of a key and a value. -/

namespace ResourceCatalog.Toml

inductive Line where
  /-- A heading of a table. -/
  | table (key : Key)
  /-- A heading of one more table of a list. -/
  | entry (key : Key)
  | pair (key : Key) (value : Written)

/-- What follows the end of a line, before which blanks and a comment may stand. -/
def afterLine? (s : List Char) : Option (List Char) := do
  match ← skipComment? (skipSpaces s) with
  | [] => some []
  | s => afterNewline? s

/-- A heading or a pair. -/
def scanLine? : Scan Line
  | '[' :: '[' :: rest => do
    let (key, rest) ← scanKey? rest
    let ((), rest) ← scanChar? ']' rest
    let ((), rest) ← scanChar? ']' rest
    return (.entry key, rest)
  | '[' :: rest => do
    let (key, rest) ← scanKey? rest
    let ((), rest) ← scanChar? ']' rest
    return (.table key, rest)
  | s => do
    let (key, rest) ← scanKey? s
    let ((), rest) ← scanChar? '=' rest
    let (value, rest) ← scanValue? (rest.length + 1) (skipSpaces rest)
    if value.depth ≤ deepest then return (.pair key value, rest) else none

/-- The lines of a text, without those that hold blanks and comments alone; `fuel` bounds their number. -/
def scanLines? : Nat → List Char → Option (List Line)
  | 0, _ => none
  | fuel + 1, s => do
    match ← skipLines? s.length s with
    | [] => some []
    | s =>
      let (line, rest) ← scanLine? s
      let lines ← scanLines? fuel (← afterLine? rest)
      return line :: lines

/-- The lines of a text, before which a mark of the encoding may stand. -/
def lines? (s : List Char) : Option (List Line) :=
  let lines := match s with
    | '\uFEFF' :: rest => rest
    | s => s
  scanLines? (lines.length + 1) lines

end ResourceCatalog.Toml
