import ResourceCatalog.Json.Problem
import ResourceCatalog.Json.Tree
import ResourceCatalog.Word

/-!
# Reading typed values

A reader takes a tree to a value of some type, or to the first reason why it cannot. A record may be
written as a map of its fields in any order or as a list of their values in order; a choice is
written as its name, or as a map of its name to `null`.
-/

namespace ResourceCatalog.Json

abbrev Reader (α : Type) := Tree → Except Error α

variable {α σ : Type}

def refuse (problem : Problem) : Except Error α := .error (.unfit problem)

/-- What a tree is, unless its text is malformed there. -/
def Tree.found? : Tree → Option Found
  | .broken => none
  | .null => some .null
  | .truth b => some (.truth b)
  | .number n =>
    match n.value? with
    | some (.natural n) => some (.integer n)
    | some (.negative n) => some (.integer n)
    | some (.real x) => some (.real (realLayout.text x))
    | none => none
  | .text s => s.map .text
  | .list _ => some .sequence
  | .map _ => some .map

/-- The answer to a tree of the wrong type. -/
def misfit (tree : Tree) (expected : String) : Except Error α :=
  match tree.found? with
  | some found => refuse (.invalidType found expected)
  | none => .error .malformed

/-! ## Single values -/

def readText (expected : String) : Reader String
  | .text (some s) => .ok s
  | tree => misfit tree expected

def readString : Reader String := readText "a string"

/-- Reads a text whose content has a syntax of its own. -/
def readParsed (expected : String) (parse : String → Except String α) : Reader α := fun tree => do
  match parse (← readText expected tree) with
  | .ok a => .ok a
  | .error reason => refuse (.refused reason)

def readTruth : Reader Bool
  | .truth b => .ok b
  | tree => misfit tree "a boolean"

def readUnit : Reader Unit
  | .null => .ok ()
  | tree => misfit tree "unit"

/-- Reads a whole number from `least` up to, and without, `bound`. -/
def readInteger (least bound : Int) (expected : String) : Reader Int := fun tree =>
  let within (n : Int) : Except Error Int :=
    if least ≤ n ∧ n < bound then .ok n else refuse (.invalidValue (.integer n) expected)
  match tree with
  | .number numeral =>
    match numeral.value? with
    | some (.natural n) => within n
    | some (.negative n) => within n
    | _ => misfit tree expected
  | _ => misfit tree expected

/-- Reads a number from zero up to, and without, `bound`. -/
def readNatural (bound : Nat) (expected : String) : Reader Nat := fun tree =>
  (readInteger 0 bound expected tree).map Int.toNat

/-- Reads a number that fits a word of 64 bits without a sign. -/
def readWord64 : Reader Nat := readNatural Word.size64 "u64"

def readOptional (read : Reader α) : Reader (Option α)
  | .null => .ok none
  | tree => (read tree).map some

def readList (read : Reader α) : Reader (List α)
  | .list items => items.mapM read
  | tree => misfit tree "a sequence"

/-! ## Choices -/

/-- The choice of the given name. -/
def chosen (choices : List (String × α)) (name : String) : Except Error α :=
  match choices.lookup name with
  | some a => .ok a
  | none => refuse (.unknownVariant name (choices.map Prod.fst))

/-- Reads one of several named values. -/
def readChoice (choices : List (String × α)) : Reader α
  | .text (some name) => chosen choices name
  | .map ((key, value) :: rest) => do
    let a ← chosen choices (← readText "variant identifier" key)
    readUnit value
    if rest.isEmpty then .ok a else .error .malformed
  | _ => .error .malformed

/-! ## Records -/

/-- Goes through the members of a map. `take` says how a field of a given name is read into what has
been read so far; the value of a name that is no field is passed over. -/
def foldMembers (take : σ → String → Option (Reader σ)) : σ → List (Tree × Tree) → Except Error σ
  | s, [] => .ok s
  | s, (.text (some name), value) :: rest =>
    match take s name with
    | some read => do foldMembers take (← read value) rest
    | none => if value.isWhole then foldMembers take s rest else .error .malformed
  | _, _ :: _ => .error .malformed

/-- Reads a field that has not been read yet. -/
def readField (name : String) (current : Option α) (read : Reader α) (put : α → σ) : Reader σ := fun tree =>
  match current with
  | some _ => refuse (.duplicateField name)
  | none => (read tree).map put

/-- The value of a field that must be there. -/
def required (name : String) : Option α → Except Error α
  | some a => .ok a
  | none => refuse (.missingField name)

/-- Reads the values of a list one after the other. -/
abbrev Items := StateT (List Tree) (Except Error)

/-- The next value, or nothing at the end of the list. -/
def Items.next? (read : Reader α) : Items (Option α) := fun items =>
  match items with
  | [] => .ok (none, [])
  | item :: rest => (read item).map (some ·, rest)

/-- The value at `index`, which must be there. -/
def Items.next (index : Nat) (record : String) (read : Reader α) : Items α := do
  match ← Items.next? read with
  | some a => pure a
  | none => throw (.unfit (.invalidLength index record))

/-- The next value, or `default` at the end of the list. -/
def Items.nextD (read : Reader α) (default : α) : Items α := do
  return (← Items.next? read).getD default

/-- Reads a record from its map or from the list of its values. -/
def readRecord (record : String) (items : Items α) (members : List (Tree × Tree) → Except Error α) : Reader α
  | .list trees => do
    let (a, rest) ← items trees
    if rest.isEmpty then .ok a else .error .malformed
  | .map entries => members entries
  | tree => misfit tree record

/-! ## Whole texts -/

/-- Reads a text that holds one value and nothing else. -/
def decode (read : Reader α) (text : String) : Except Error α := do
  let (tree, rest) := Tree.ofText text.toList
  let a ← read tree
  if rest.isEmpty then .ok a else .error .malformed

end ResourceCatalog.Json
