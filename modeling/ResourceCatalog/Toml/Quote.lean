import ResourceCatalog.Text.Ascii

/-!
# Quoted texts in TOML

Basic texts stand between double quotes and have escapes, literal texts stand between single quotes and
have none. Either may be tripled, and then runs over several lines.
-/

namespace ResourceCatalog.Toml

/-- Reads something off the front of a text. -/
abbrev Scan (α : Type) := List Char → Option (α × List Char)

/-- Controls, which may stand in no text and no comment; the tab is none of them. -/
def isControl (c : Char) : Bool := c ≠ '\t' && (c.toNat < 0x20 || c.toNat = 0x7F)

def skipSpaces (s : List Char) : List Char := s.dropWhile Text.isSpaceOrTab

/-- What follows the end of a line. -/
def afterNewline? : List Char → Option (List Char)
  | '\n' :: rest => some rest
  | '\r' :: '\n' :: rest => some rest
  | _ => none

/-- The character with a code point of that many hexadecimal digits. -/
def scanCodePoint? (count : Nat) : Scan Char := fun s => do
  let digits := s.take count
  if digits.length ≠ count then none
  else
    let n ← Text.hexNumber? 0 digits
    if n.isValidChar then some (Char.ofNat n, s.drop count) else none

/-- The character that an escape stands for, behind its backslash. -/
def scanEscape? : Scan Char
  | 'b' :: rest => some ('\x08', rest)
  | 'e' :: rest => some ('\x1b', rest)
  | 't' :: rest => some ('\t', rest)
  | 'n' :: rest => some ('\n', rest)
  | 'f' :: rest => some ('\x0c', rest)
  | 'r' :: rest => some ('\r', rest)
  | '"' :: rest => some ('"', rest)
  | '\\' :: rest => some ('\\', rest)
  | 'x' :: rest => scanCodePoint? 2 rest
  | 'u' :: rest => scanCodePoint? 4 rest
  | 'U' :: rest => scanCodePoint? 8 rest
  | _ => none

/-- What follows spaces and line ends. -/
def skipBreaks : Nat → List Char → List Char
  | 0, s => s
  | fuel + 1, s =>
    let s := skipSpaces s
    match afterNewline? s with
    | some rest => skipBreaks fuel rest
    | none => s

/-- The rest of a basic text, up to its closing quote. -/
def scanBasic? : Nat → Scan (List Char)
  | _, '"' :: rest => some ([], rest)
  | fuel + 1, '\\' :: rest => do
    let (c, rest) ← scanEscape? rest
    let (text, rest) ← scanBasic? fuel rest
    return (c :: text, rest)
  | fuel + 1, c :: rest => do
    if isControl c then none
    else
      let (text, rest) ← scanBasic? fuel rest
      return (c :: text, rest)
  | _, _ => none

/-- The rest of a literal text, up to its closing quote. -/
def scanLiteral? : Scan (List Char)
  | [] => none
  | c :: rest =>
    if c = '\'' then some ([], rest)
    else if isControl c then none
    else (scanLiteral? rest).map fun (text, rest) => (c :: text, rest)

/-- The quotes that a tripled quote closes behind, two at most, and what follows it; nothing if no tripled
quote stands here. -/
def closing? (quote : Char) (s : List Char) : Option (List Char × List Char) :=
  let quotes := s.takeWhile (· = quote)
  if quotes.length < 3 then none
  else
    let inner := min (quotes.length - 3) 2
    some (quotes.take inner, s.drop (inner + 3))

/-- The rest of a basic text of several lines. A backslash at the end of a line takes away the line end and
all blanks behind it. -/
def scanBasicLines? : Nat → Scan (List Char)
  | 0, _ => none
  | fuel + 1, s =>
    match closing? '"' s with
    | some closed => some closed
    | none =>
      match s with
      | [] => none
      | '\\' :: rest =>
        match afterNewline? (skipSpaces rest) with
        | some rest => scanBasicLines? fuel (skipBreaks rest.length rest)
        | none => do
          let (c, rest) ← scanEscape? rest
          let (text, rest) ← scanBasicLines? fuel rest
          return (c :: text, rest)
      | c :: rest =>
        match afterNewline? s with
        | some rest => (scanBasicLines? fuel rest).map fun (text, rest) => ('\n' :: text, rest)
        | none =>
          if isControl c then none
          else (scanBasicLines? fuel rest).map fun (text, rest) => (c :: text, rest)

/-- The rest of a literal text of several lines. Line ends stay as they are. -/
def scanLiteralLines? : Nat → Scan (List Char)
  | 0, _ => none
  | fuel + 1, s =>
    match closing? '\'' s with
    | some closed => some closed
    | none =>
      match s with
      | [] => none
      | '\r' :: '\n' :: rest =>
        (scanLiteralLines? fuel rest).map fun (text, rest) => ('\r' :: '\n' :: text, rest)
      | c :: rest =>
        if isControl c ∧ c ≠ '\n' then none
        else (scanLiteralLines? fuel rest).map fun (text, rest) => (c :: text, rest)

/-- A line end directly behind an opening tripled quote does not belong to the text. -/
def skipFirstNewline (s : List Char) : List Char := (afterNewline? s).getD s

/-- A quoted text on one line, which may also be a key. -/
def scanQuotedLine? : Scan String
  | '"' :: rest => (scanBasic? rest.length rest).map fun (text, rest) => (String.ofList text, rest)
  | '\'' :: rest => (scanLiteral? rest).map fun (text, rest) => (String.ofList text, rest)
  | _ => none

/-- A quoted text. -/
def scanQuoted? : Scan String
  | '"' :: '"' :: '"' :: rest =>
    (scanBasicLines? (rest.length + 1) (skipFirstNewline rest)).map fun (text, rest) =>
      (String.ofList text, rest)
  | '\'' :: '\'' :: '\'' :: rest =>
    (scanLiteralLines? (rest.length + 1) (skipFirstNewline rest)).map fun (text, rest) =>
      (String.ofList text, rest)
  | s => scanQuotedLine? s

end ResourceCatalog.Toml
