import ResourceCatalog.Text.LetterCase

/-!
# Lower-casing

Full Unicode lower-casing of a text. Two letters need more than a table: `İ` becomes `i` and a
combining dot, and a capital sigma becomes `ς` at the end of a word and `σ` elsewhere.
-/

namespace ResourceCatalog.Text

/-- The lower-case letter of one character, outside ASCII by the table. -/
def lowerLetter (c : Char) : Char :=
  if c.toNat < 128 then c.toLower
  else
    match lowercaseRuns.find? (·.covers c.toNat) with
    | some run => Char.ofNat (c.toNat + run.offset).toNat
    | none => c

/-- Letters with case, in either case. ASCII is decided without the table. -/
def isCased (c : Char) : Bool :=
  if c.toNat < 128 then c.isAlpha else inRanges casedRanges c

/-- Characters that word-end rules look through, such as apostrophes and accents. -/
def isCaseIgnorable (c : Char) : Bool := inRanges caseIgnorableRanges c

/-- The first character that is not looked through is a cased letter. -/
def meetsCased (s : List Char) : Bool :=
  match s.dropWhile isCaseIgnorable with
  | c :: _ => isCased c
  | [] => false

/-- The lower-case form of `c` between `before` (last character first) and `after`. -/
def lowerBetween (before : List Char) (c : Char) (after : List Char) : List Char :=
  if c = 'Σ' then [if meetsCased before && !meetsCased after then 'ς' else 'σ']
  else if c = 'İ' then ['i', '\u0307']
  else [lowerLetter c]

/-- Lower-cases the second list, which stands after `before` (last character first). -/
def lowerAfter (before : List Char) : List Char → List Char
  | [] => []
  | c :: rest => lowerBetween before c rest ++ lowerAfter (c :: before) rest

/-- The lower-case form of a whole text. -/
def lowercase (s : List Char) : List Char := lowerAfter [] s

/-- `needle` stands somewhere in the text. -/
def hasInfix (needle : List Char) : List Char → Bool
  | [] => needle.isEmpty
  | c :: rest => needle.isPrefixOf (c :: rest) || hasInfix needle rest

theorem hasInfix_iff {needle s : List Char} : hasInfix needle s = true ↔ needle <:+: s := by
  induction s with
  | nil => simp [hasInfix]
  | cons c rest ih => simp [hasInfix, ih, List.infix_cons_iff]

end ResourceCatalog.Text
