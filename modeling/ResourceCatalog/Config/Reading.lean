import ResourceCatalog.Config.Error
import ResourceCatalog.Config.Settings
import ResourceCatalog.Config.Value
import ResourceCatalog.Decimal.Layout
import ResourceCatalog.Decimal.Nearest
import ResourceCatalog.Text.Lowercase
import ResourceCatalog.Word

/-!
# Settings out of merged values

Numbers are taken from numbers, truth values and texts that spell either; texts from anything without
parts. A section is a table of its settings, or a list of their values in order. An error names the path of
the setting and the source of its value.
-/

namespace ResourceCatalog.Config

abbrev Reading (α : Type) := Value → Except Error α

/-- Numbers in settings are written without an exponent. -/
def numberLayout : Decimal.Layout := ⟨none, "", .upper⟩

/-- Numbers in reports about sections keep `.0`. -/
def reportLayout : Decimal.Layout := ⟨none, ".0", .upper⟩

/-- The error for a value of the wrong type. -/
def mismatch {α : Type} (found : Found) (expected : String) (origin : Option String) : Except Error α :=
  .error (.mismatch found expected none origin)

/-! ## Single settings -/

def readText : Reading String
  | .scalar (.text s) _ => .ok s
  | .scalar (.truth b) _ => .ok (if b then "true" else "false")
  | .scalar (.integer n) _ => .ok (toString n)
  | .scalar (.real x) _ => .ok (numberLayout.text x)
  | .scalar .nothing origin => mismatch .nothing "a string" origin
  | .list _ origin => mismatch .sequence "a string" origin
  | .table _ origin => mismatch .map "a string" origin

/-- The number that a text spells: its digits behind an optional plus, or a word for yes or no. -/
def spelledNumber? (s : String) : Option Nat :=
  match String.ofList (Text.lowercase s.toList) with
  | "true" | "on" | "yes" => some 1
  | "false" | "off" | "no" => some 0
  | _ =>
    let digits := match s.toList with
      | '+' :: rest => rest
      | rest => rest
    (Decimal.natural? digits).filter fun n => n < Word.size64

/-- Reads a number of 64 bits. A fraction is rounded, halves away from zero. -/
def readNumber : Reading Nat
  | .scalar (.integer n) origin =>
    if 0 ≤ n then .ok n.toNat else mismatch (.signed n) "an unsigned 64 bit or less integer" origin
  | .scalar (.real x) _ => .ok x.round.toUInt64.toNat
  | .scalar (.truth b) _ => .ok (if b then 1 else 0)
  | .scalar (.text s) origin =>
    match spelledNumber? s with
    | some n => .ok n
    | none => mismatch (.text s) "an integer" origin
  | .scalar .nothing origin => mismatch .nothing "an integer" origin
  | .list _ origin => mismatch .sequence "an integer" origin
  | .table _ origin => mismatch .map "an integer" origin

/-- Reads a number of 32 bits. -/
def readSmallNumber : Reading Nat := fun value => do
  let n ← readNumber value
  if n < Word.size32 then .ok n else mismatch (.unsigned n) "an unsigned 32 bit integer" none

/-! ## Sections -/

/-- The path of a part, below the part that the key names. -/
def joinKeys (outer : String) : Option String → String
  | none => outer
  | some inner => if inner.startsWith "[" then outer ++ inner else outer ++ "." ++ inner

/-- The error seen from the value around the one that it is about. -/
def Error.within (outer : String) : Error → Error
  | .mismatch found expected key origin => .mismatch found expected (some (joinKeys outer key)) origin
  | .invalidLength length expected key => .invalidLength length expected (some (joinKeys outer key))
  | .missing field => .missing (joinKeys outer (some field))
  | error => error

variable {α : Type}

/-- Reads the member of that name, if there is one. -/
def member? (members : List (String × Value)) (name : String) (read : Reading α) : Except Error (Option α) :=
  match members.lookup name with
  | some value => ((read value).map some).mapError (Error.within name)
  | none => .ok none

/-- Reads the item at that place, if there is one. -/
def item? (items : List Value) (index : Nat) (read : Reading α) : Except Error (Option α) :=
  match items[index]? with
  | some value => ((read value).map some).mapError (Error.within s!"[{index}]")
  | none => .ok none

/-- What stood in the place of a section. -/
def Scalar.found : Scalar → Found
  | .nothing => .nothing
  | .truth b => .truth b
  | .integer n => .integer n
  | .real x => .real (reportLayout.text x)
  | .text s => .text s

/-- Reads a section from its table or its list. -/
def readSection (record : String) (ofTable : List (String × Value) → Except Error α)
    (ofList : List Value → Except Error α) : Reading α
  | .table members _ => ofTable members
  | .list items _ => ofList items
  | .scalar s _ => mismatch s.found record none

/-! ## The database -/

def DatabaseSettings.ofTable (members : List (String × Value)) : Except Error DatabaseSettings := do
  let url ← member? members "url" readText
  let fields : Fields :=
    { maxConnections := ← member? members "max_connections" readSmallNumber
      minConnections := ← member? members "min_connections" readSmallNumber
      connectTimeoutSeconds := ← member? members "connect_timeout_seconds" readNumber
      idleTimeoutSeconds := ← member? members "idle_timeout_seconds" readNumber }
  match url with
  | some url => .ok (fields.withUrl url)
  | none => .error (.missing "url")

def DatabaseSettings.ofList (items : List Value) : Except Error DatabaseSettings := do
  match ← item? items 0 readText with
  | none => .error (.invalidLength 0 (withElements databaseRecord 5) none)
  | some url =>
    let fields : Fields :=
      { maxConnections := ← item? items 1 readSmallNumber
        minConnections := ← item? items 2 readSmallNumber
        connectTimeoutSeconds := ← item? items 3 readNumber
        idleTimeoutSeconds := ← item? items 4 readNumber }
    .ok (fields.withUrl url)

def DatabaseSettings.ofValue : Reading DatabaseSettings := readSection databaseRecord ofTable ofList

/-! ## Logging -/

def LoggingSettings.ofTable (members : List (String × Value)) : Except Error LoggingSettings := do
  let fields : Fields :=
    { level := ← member? members "level" readText, format := ← member? members "format" readText }
  return fields.finish

def LoggingSettings.ofList (items : List Value) : Except Error LoggingSettings := do
  let fields : Fields := { level := ← item? items 0 readText, format := ← item? items 1 readText }
  return fields.finish

def LoggingSettings.ofValue : Reading LoggingSettings := readSection loggingRecord ofTable ofList

/-! ## All settings -/

def Settings.ofTable (members : List (String × Value)) : Except Error Settings := do
  let database ← member? members "database" DatabaseSettings.ofValue
  let logging ← member? members "logging" LoggingSettings.ofValue
  match database with
  | some database => .ok { database, logging := logging.getD {} }
  | none => .error (.missing "database")

def Settings.ofList (items : List Value) : Except Error Settings := do
  match ← item? items 0 DatabaseSettings.ofValue with
  | none => .error (.invalidLength 0 (withElements settingsRecord 2) none)
  | some database => .ok { database, logging := (← item? items 1 LoggingSettings.ofValue).getD {} }

def Settings.ofValue : Reading Settings := readSection settingsRecord ofTable ofList

end ResourceCatalog.Config
