import ResourceCatalog.Text.Quoted

/-!
# Why a JSON text is refused

Either the text is not well-formed, or it is well-formed as far as it was read and a value does not
fit the place where it stands.
-/

namespace ResourceCatalog.Json

/-- What stood in a place, in the words of a message. -/
inductive Found where
  | null
  | truth (b : Bool)
  | integer (n : Int)
  | real (decimal : String)
  | text (s : String)
  | sequence
  | map
deriving DecidableEq, Repr

/-- A name between single back quotes. -/
def named (s : String) : String := "\x60" ++ s ++ "\x60"

def Found.message : Found → String
  | .null => "null"
  | .truth b => "boolean " ++ named (if b then "true" else "false")
  | .integer n => "integer " ++ named (toString n)
  | .real decimal => "floating point " ++ named decimal
  | .text s => "string " ++ Text.quoted s
  | .sequence => "sequence"
  | .map => "map"

/-- Why a value does not fit its place. -/
inductive Problem where
  | invalidType (found : Found) (expected : String)
  | invalidValue (found : Found) (expected : String)
  | unknownVariant (name : String) (variants : List String)
  | duplicateField (name : String)
  | missingField (name : String)
  | invalidLength (length : Nat) (expected : String)
  /-- The content of a value was refused by the type that it was read for. -/
  | refused (reason : String)
deriving DecidableEq, Repr

/-- The names that would have been right, in a message. -/
def expectedNames : List String → String
  | [] => "there are no variants"
  | [a] => "expected " ++ named a
  | [a, b] => "expected " ++ named a ++ " or " ++ named b
  | names => "expected one of " ++ ", ".intercalate (names.map named)

def Problem.message : Problem → String
  | .invalidType found expected => "invalid type: " ++ found.message ++ ", expected " ++ expected
  | .invalidValue found expected => "invalid value: " ++ found.message ++ ", expected " ++ expected
  | .unknownVariant name variants => "unknown variant " ++ named name ++ ", " ++ expectedNames variants
  | .duplicateField name => "duplicate field " ++ named name
  | .missingField name => "missing field " ++ named name
  | .invalidLength length expected => s!"invalid length {length}, expected " ++ expected
  | .refused reason => reason

/-- Why a text is refused. -/
inductive Error where
  | malformed
  | unfit (problem : Problem)
deriving DecidableEq, Repr

def Error.message : Error → String
  | .malformed => "malformed JSON"
  | .unfit problem => problem.message

end ResourceCatalog.Json
