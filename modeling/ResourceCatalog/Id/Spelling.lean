import ResourceCatalog.Id.Uuid

/-!
# Spellings of UUIDs

Four spellings are read: 32 digits, the hyphenated groups, the groups in braces, and the groups
after `urn:uuid:`. Digits and `urn:uuid:` may be in either case. A text that is none of them is
answered with the first reason found by a fixed search, in which positions and lengths count bytes.
-/

namespace ResourceCatalog.Id

/-- Why a text is no UUID. -/
inductive Malformed where
  | length (found : Nat)
  | character (c : Char) (index : Nat)
  | groupCount (found : Nat)
  | groupLength (group expected found : Nat)
deriving DecidableEq, Repr

def Malformed.message : Malformed → String
  | .length found => s!"invalid length: found {found}"
  | .character c index => s!"invalid character: found \x60{c}\x60 at {index}"
  | .groupCount found => s!"invalid group count: expected 5, found {found}"
  | .groupLength group expected found =>
    s!"invalid group length in group {group}: expected {expected}, found {found}"

/-! ## Accepted spellings -/

/-- Takes out the hyphens of a text whose hyphens stand after the digits 8, 12, 16 and 20. -/
def unhyphenated? (s : List Char) : Option (List Char) :=
  if s.length = 36 ∧ (s.drop 8).head? = some '-' ∧ (s.drop 13).head? = some '-' ∧
      (s.drop 18).head? = some '-' ∧ (s.drop 23).head? = some '-' then
    some (s.take 8 ++ (s.drop 9).take 4 ++ (s.drop 14).take 4 ++ (s.drop 19).take 4 ++ s.drop 24)
  else none

def urnMark : List Char := "urn:uuid:".toList

/-- What stands after `urn:uuid:` in any letter case. -/
def afterUrn? (s : List Char) : Option (List Char) :=
  if (s.take 9).map Char.toLower = urnMark then some (s.drop 9) else none

/-- What stands between braces. -/
def betweenBraces? : List Char → Option (List Char)
  | '\x7b' :: rest => if rest.getLast? = some '\x7d' then some rest.dropLast else none
  | _ => none

/-- The digits of a text laid out as one of the four spellings. -/
def spelledDigits? (s : List Char) : Option (List Char) :=
  if s.length = 32 then some s
  else
    match betweenBraces? s with
    | some inner => unhyphenated? inner
    | none =>
      match afterUrn? s with
      | some inner => unhyphenated? inner
      | none => unhyphenated? s

/-! ## Reasons -/

/-- The bytes of a text in UTF-8. -/
def byteCount : List Char → Nat
  | [] => 0
  | c :: rest => c.utf8Size + byteCount rest

/-- How far the search for a reason has understood the layout. -/
inductive Shape where
  | any
  | grouped
  | braced
  | urn
deriving DecidableEq

/-- The first character that is neither digit nor hyphen, with its byte position; positions start at `index`. -/
def strayFrom? (index : Nat) : List Char → Option Malformed
  | [] => none
  | c :: rest =>
    if c = '-' ∨ (Text.hexValue? c).isSome then strayFrom? (index + c.utf8Size) rest
    else some (.character c index)

/-- The byte positions of the hyphens; positions start at `index`. -/
def hyphensFrom (index : Nat) : List Char → List Nat
  | [] => []
  | c :: rest =>
    if c = '-' then index :: hyphensFrom (index + c.utf8Size) rest else hyphensFrom (index + c.utf8Size) rest

/-- The groups before each hyphen: where they start and how long they have to be. -/
def groupStarts : List (Nat × Nat) := [(0, 8), (9, 4), (14, 4), (19, 4)]

/-- The first of four hyphens that is out of place, given with the number of its group. -/
def misplacedHyphen? : Nat → List (Nat × Nat) → List Nat → Option Malformed
  | group, (start, expected) :: starts, hyphen :: hyphens =>
    if hyphen = start + expected then misplacedHyphen? (group + 1) starts hyphens
    else some (.groupLength group expected (hyphen - start))
  | _, _, _ => none

/-- The reason for a text of known shape: `part` is the piece looked at, which starts at byte `skip` of `whole`. -/
def reasonIn (shape : Shape) (skip : Nat) (part whole : List Char) : Malformed :=
  match strayFrom? skip part with
  | some stray => stray
  | none =>
    let hyphens := hyphensFrom 0 part
    if shape = .any ∧ hyphens = [] then .length (byteCount whole)
    else if hyphens.length ≠ 4 then .groupCount (hyphens.length + 1)
    else
      match misplacedHyphen? 0 groupStarts hyphens with
      | some bad => bad
      | none => .groupLength 4 12 (byteCount whole - 24)

/-- The reason for a text whose shape is not known yet. -/
def reasonAny (s : List Char) : Malformed :=
  if s = [] ∨ 45 < byteCount s then .length (byteCount s)
  else
    match betweenBraces? s with
    | some inner => reasonIn .braced 1 inner s
    | none =>
      match afterUrn? s with
      | some inner => reasonIn .urn 9 inner s
      | none => reasonIn .any 0 s s

/-- The reason for a text of 36 bytes, which is taken for hyphenated groups. -/
def reasonGrouped (s : List Char) : Malformed := reasonIn .grouped 0 s s

/-- The reason why a text is no UUID. -/
def reason (s : List Char) : Malformed :=
  if byteCount s = 36 then reasonGrouped s
  else
    match betweenBraces? s, afterUrn? s with
    | some inner, _ => if byteCount s = 38 then reasonGrouped inner else reasonAny s
    | none, some inner => if byteCount s = 45 then reasonGrouped inner else reasonAny s
    | none, none => reasonAny s

/-- Reads a UUID in one of its four spellings. -/
def Uuid.parse (s : List Char) : Except Malformed Uuid :=
  match (spelledDigits? s).bind (Text.hexNumber? 0) with
  | some n => if h : n < Uuid.count then .ok ⟨⟨n, h⟩⟩ else .error (reason s)
  | none => .error (reason s)

end ResourceCatalog.Id
