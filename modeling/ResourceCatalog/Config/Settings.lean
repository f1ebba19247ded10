import ResourceCatalog.Json.Reader
import ResourceCatalog.Json.Value
import ResourceCatalog.Word

/-!
# Settings

What can be configured: how the database is reached, and what is logged. Every setting but the address of
the database has a default.
-/

namespace ResourceCatalog.Config

structure DatabaseSettings where
  url : String
  maxConnections : Nat := 20
  minConnections : Nat := 1
  connectTimeoutSeconds : Nat := 10
  idleTimeoutSeconds : Nat := 300
deriving DecidableEq, Repr

structure LoggingSettings where
  level : String := "info"
  format : String := "pretty"
deriving DecidableEq, Repr

structure Settings where
  database : DatabaseSettings
  logging : LoggingSettings := {}
deriving DecidableEq, Repr

/-- The words of messages for the three records. -/
def settingsRecord : String := "struct AppConfig"

def databaseRecord : String := "struct DatabaseConfig"

def loggingRecord : String := "struct LoggingConfig"

def withElements (record : String) (n : Nat) : String := record ++ s!" with {n} elements"

/-- Numbers of connections have 32 bits. -/
def readCount : Json.Reader Nat := Json.readNatural Word.size32 "u32"

/-! ## The database -/

namespace DatabaseSettings

def json (d : DatabaseSettings) : Json.Value :=
  .map [("url", .text d.url), ("max_connections", .integer d.maxConnections),
    ("min_connections", .integer d.minConnections),
    ("connect_timeout_seconds", .integer d.connectTimeoutSeconds),
    ("idle_timeout_seconds", .integer d.idleTimeoutSeconds)]

/-- What has been read of the fields. -/
structure Fields where
  url : Option String := none
  maxConnections : Option Nat := none
  minConnections : Option Nat := none
  connectTimeoutSeconds : Option Nat := none
  idleTimeoutSeconds : Option Nat := none

/-- The settings, with defaults for those that are not given. -/
def Fields.withUrl (f : Fields) (url : String) : DatabaseSettings :=
  let default : DatabaseSettings := { url }
  { url
    maxConnections := f.maxConnections.getD default.maxConnections
    minConnections := f.minConnections.getD default.minConnections
    connectTimeoutSeconds := f.connectTimeoutSeconds.getD default.connectTimeoutSeconds
    idleTimeoutSeconds := f.idleTimeoutSeconds.getD default.idleTimeoutSeconds }

def Fields.take (f : Fields) : String → Option (Json.Reader Fields)
  | "url" => some (Json.readField "url" f.url Json.readString fun v => { f with url := some v })
  | "max_connections" =>
    some (Json.readField "max_connections" f.maxConnections readCount fun v =>
      { f with maxConnections := some v })
  | "min_connections" =>
    some (Json.readField "min_connections" f.minConnections readCount fun v =>
      { f with minConnections := some v })
  | "connect_timeout_seconds" =>
    some (Json.readField "connect_timeout_seconds" f.connectTimeoutSeconds Json.readWord64 fun v =>
      { f with connectTimeoutSeconds := some v })
  | "idle_timeout_seconds" =>
    some (Json.readField "idle_timeout_seconds" f.idleTimeoutSeconds Json.readWord64 fun v =>
      { f with idleTimeoutSeconds := some v })
  | _ => none

def Fields.finish (f : Fields) : Except Json.Error DatabaseSettings := do
  return f.withUrl (← Json.required "url" f.url)

def readItems : Json.Items DatabaseSettings := do
  let url ← Json.Items.next 0 (withElements databaseRecord 5) Json.readString
  let default : DatabaseSettings := { url }
  let maxConnections ← Json.Items.nextD readCount default.maxConnections
  let minConnections ← Json.Items.nextD readCount default.minConnections
  let connectTimeoutSeconds ← Json.Items.nextD Json.readWord64 default.connectTimeoutSeconds
  let idleTimeoutSeconds ← Json.Items.nextD Json.readWord64 default.idleTimeoutSeconds
  return { url, maxConnections, minConnections, connectTimeoutSeconds, idleTimeoutSeconds }

def read : Json.Reader DatabaseSettings :=
  Json.readRecord databaseRecord readItems fun members => do
    (← Json.foldMembers Fields.take {} members).finish

end DatabaseSettings

/-! ## Logging -/

namespace LoggingSettings

def json (l : LoggingSettings) : Json.Value := .map [("level", .text l.level), ("format", .text l.format)]

/-- What has been read of the fields. -/
structure Fields where
  level : Option String := none
  format : Option String := none

/-- The settings, with defaults for those that are not given. -/
def Fields.finish (f : Fields) : LoggingSettings :=
  let default : LoggingSettings := {}
  { level := f.level.getD default.level, format := f.format.getD default.format }

def Fields.take (f : Fields) : String → Option (Json.Reader Fields)
  | "level" => some (Json.readField "level" f.level Json.readString fun v => { f with level := some v })
  | "format" => some (Json.readField "format" f.format Json.readString fun v => { f with format := some v })
  | _ => none

def readItems : Json.Items LoggingSettings := do
  let default : LoggingSettings := {}
  let level ← Json.Items.nextD Json.readString default.level
  let format ← Json.Items.nextD Json.readString default.format
  return { level, format }

def read : Json.Reader LoggingSettings :=
  Json.readRecord loggingRecord readItems fun members => do
    return (← Json.foldMembers Fields.take {} members).finish

end LoggingSettings

/-! ## All settings -/

namespace Settings

def json (s : Settings) : Json.Value :=
  .map [("database", s.database.json), ("logging", s.logging.json)]

/-- What has been read of the fields. -/
structure Fields where
  database : Option DatabaseSettings := none
  logging : Option LoggingSettings := none

def Fields.take (f : Fields) : String → Option (Json.Reader Fields)
  | "database" =>
    some (Json.readField "database" f.database DatabaseSettings.read fun v => { f with database := some v })
  | "logging" =>
    some (Json.readField "logging" f.logging LoggingSettings.read fun v => { f with logging := some v })
  | _ => none

def Fields.finish (f : Fields) : Except Json.Error Settings := do
  return { database := ← Json.required "database" f.database, logging := f.logging.getD {} }

def readItems : Json.Items Settings := do
  let database ← Json.Items.next 0 (withElements settingsRecord 2) DatabaseSettings.read
  let logging ← Json.Items.nextD LoggingSettings.read {}
  return { database, logging }

def read : Json.Reader Settings :=
  Json.readRecord settingsRecord readItems fun members => do
    (← Json.foldMembers Fields.take {} members).finish

end Settings

end ResourceCatalog.Config
