/-!
# Errors of the database

What the connection to a database reports instead of an answer, by cause, with the text of each.
-/

namespace ResourceCatalog.Database

/-- What a database refused a statement for. -/
inductive Violation where
  | unique
  | foreignKey
  | notNull
  | check
  | other
deriving DecidableEq, Repr

/-- Why a statement has no answer. -/
inductive Error where
  | configuration (detail : String)
  | database (detail : String) (violation : Violation)
  | io (detail : String)
  | tls (detail : String)
  | protocol (detail : String)
  | rowNotFound
  | typeNotFound (name : String)
  | columnNotFound (name : String)
  | columnDecode (column detail : String)
  | encode (detail : String)
  | decode (detail : String)
  | poolTimedOut
  | poolClosed
  | workerCrashed
  | beginFailed
  /-- Any other error, with its text. -/
  | other (text : String)
deriving DecidableEq, Repr

def Error.message : Error → String
  | .configuration detail => "error with configuration: " ++ detail
  | .database detail _ => "error returned from database: " ++ detail
  | .io detail => "error communicating with database: " ++ detail
  | .tls detail => "error occurred while attempting to establish a TLS connection: " ++ detail
  | .protocol detail => "encountered unexpected or invalid data: " ++ detail
  | .rowNotFound => "no rows returned by a query that expected to return at least one row"
  | .typeNotFound name => "type named " ++ name ++ " not found"
  | .columnNotFound name => "no column found for name: " ++ name
  | .columnDecode column detail => "error occurred while decoding column " ++ column ++ ": " ++ detail
  | .encode detail => "error occurred while encoding a value: " ++ detail
  | .decode detail => "error occurred while decoding: " ++ detail
  | .poolTimedOut => "pool timed out while waiting for an open connection"
  | .poolClosed => "attempted to acquire a connection on a closed pool"
  | .workerCrashed => "attempted to communicate with a crashed background worker"
  | .beginFailed => "got unexpected connection status after attempting to begin transaction"
  | .other text => text

/-- Why the schema could not be brought up to date. -/
inductive MigrationError where
  /-- A migration was begun and not finished. -/
  | dirty (version : Int)
  /-- The record names a migration that is not known. -/
  | unknown (version : Int)
  /-- The record has another checksum for a known migration. -/
  | modified (version : Int)
  /-- A statement around the migrations failed. -/
  | failed (error : Error)
  /-- A migration's own statements failed. -/
  | failedAt (version : Int) (error : Error)
deriving DecidableEq, Repr

def MigrationError.message : MigrationError → String
  | .dirty version =>
    s!"migration {version} is partially applied; fix and remove row from \x60_sqlx_migrations\x60 table"
  | .unknown version => s!"migration {version} was previously applied but is missing in the resolved migrations"
  | .modified version => s!"migration {version} was previously applied but has been modified"
  | .failed error => "while executing migrations: " ++ error.message
  | .failedAt version error => s!"while executing migration {version}: " ++ error.message

end ResourceCatalog.Database
