import ResourceCatalog.Config.Error
import ResourceCatalog.Database.Error
import ResourceCatalog.Id.Spelling
import ResourceCatalog.Json.Problem

/-!
# Failures

Every operation that can fail answers with a failure: its kind, a message, and the error that caused
it where another part of the system reported one.
-/

namespace ResourceCatalog

/-- The kinds of failure that callers tell apart. -/
inductive Failure.Kind where
  | validation
  | notFound
  | conflict
  | storeUnavailable
  | configuration
  | serialization
  | internal
deriving DecidableEq, Repr

namespace Failure.Kind

def all : List Kind :=
  [validation, notFound, conflict, storeUnavailable, configuration, serialization, internal]

/-- The name shown to people. -/
def label : Kind → String
  | validation => "VALIDATION"
  | notFound => "NOT_FOUND"
  | conflict => "CONFLICT"
  | storeUnavailable => "STORE_UNAVAILABLE"
  | configuration => "CONFIGURATION"
  | serialization => "SERIALIZATION"
  | internal => "INTERNAL"

/-- The name used in JSON. -/
def name : Kind → String
  | validation => "Validation"
  | notFound => "NotFound"
  | conflict => "Conflict"
  | storeUnavailable => "StoreUnavailable"
  | configuration => "Configuration"
  | serialization => "Serialization"
  | internal => "Internal"

end Failure.Kind

/-- The error of another part of the system that led to a failure. -/
inductive Failure.Cause where
  | identifier (error : Id.Malformed)
  | json (error : Json.Error)
  | configuration (error : Config.Error)
  | database (error : Database.Error)
  | migration (error : Database.MigrationError)
  /-- A value could not be written out. -/
  | formatting
deriving DecidableEq, Repr

def Failure.Cause.message : Failure.Cause → String
  | .identifier error => error.message
  | .json error => error.message
  | .configuration error => error.text
  | .database error => error.message
  | .migration error => error.message
  | .formatting => "an error occurred when formatting an argument"

/-- Why an operation has no result. -/
structure Failure where
  kind : Failure.Kind
  message : String
  source : Option Failure.Cause := none
deriving DecidableEq, Repr

namespace Failure

/-- The text shown to people. -/
def text (f : Failure) : String := f.kind.label ++ ": " ++ f.message

/-- The failure without its cause, which is not shared between holders. -/
def withoutSource (f : Failure) : Failure := { f with source := none }

def validation (message : String) : Failure := { kind := .validation, message }

def notFound (message : String) : Failure := { kind := .notFound, message }

def conflict (message : String) : Failure := { kind := .conflict, message }

def storeUnavailable (message : String) : Failure := { kind := .storeUnavailable, message }

def configuration (message : String) : Failure := { kind := .configuration, message }

def internal (message : String) : Failure := { kind := .internal, message }

/-- The failure for an identifier that cannot be read. -/
def ofIdentifier (error : Id.Malformed) : Failure :=
  { kind := .validation, message := "Malformed identifier: " ++ error.message,
    source := some (.identifier error) }

/-- The failure for a JSON text that is refused. -/
def ofJson (error : Json.Error) : Failure :=
  { kind := .serialization, message := "JSON serialization error: " ++ error.message,
    source := some (.json error) }

/-- The failure for sources that give no configuration. -/
def ofConfig (error : Config.Error) : Failure :=
  { kind := .configuration, message := "Configuration error: " ++ error.text,
    source := some (.configuration error) }

/-- The failure for a statement without an answer, behind the words that say what was being done. A key that
is taken is a conflict, a row that is not there is not found, and all else means that the store cannot be
used. -/
def ofDatabase (context : String) (error : Database.Error) : Failure :=
  { kind := match error with
      | .database _ .unique => .conflict
      | .rowNotFound => .notFound
      | _ => .storeUnavailable
    message := context ++ ": " ++ error.message
    source := some (.database error) }

/-- The failure for a schema that could not be brought up to date. -/
def ofMigration (error : Database.MigrationError) : Failure :=
  { kind := .storeUnavailable, message := "Failed to run migrations: " ++ error.message,
    source := some (.migration error) }

end Failure

/-- The result of an operation that can fail. -/
abbrev Outcome (α : Type) := Except Failure α

end ResourceCatalog
