import ResourceCatalog.Database.Program

/-!
# The schema

The statements that make the table, the record of them in the database, and whether a database is ready
for use. A migration is known by its version and by the checksum of its text.
-/

namespace ResourceCatalog.Database

structure Migration where
  version : Int
  script : String
  /-- The SHA-384 checksum of the script in hexadecimal digits. -/
  checksum : String

/-- Makes the table of resources. -/
def resourceTable : Migration :=
  { version := 1, script := resourceTableScript
    checksum := "356d36006030c4a81e92e499be121f90fc07fff1070a14dfd0a8845fceaa18c80fdac4d1bd5e0f6bceb19dd61c497823" }
where
  resourceTableScript : String :=
    "CREATE TYPE resource_type AS ENUM ('LWM2M_MODEL', 'JKS', 'PKCS_12', 'JS_MODULE');\n" ++
    "\n" ++
    "CREATE TABLE resource_info (\n" ++
    "    id            UUID PRIMARY KEY,\n" ++
    "    created_at    TIMESTAMPTZ NOT NULL DEFAULT NOW(),\n" ++
    "    tenant_id     UUID NOT NULL,\n" ++
    "    title         VARCHAR(255) NOT NULL,\n" ++
    "    resource_type resource_type NOT NULL,\n" ++
    "    resource_key  VARCHAR(255) NOT NULL,\n" ++
    "    CONSTRAINT resource_info_unq_key UNIQUE (tenant_id, resource_type, resource_key)\n" ++
    ");\n" ++
    "\n" ++
    "CREATE INDEX idx_resource_info_tenant_created ON resource_info (tenant_id, created_at, id);\n"

/-- All migrations in the order in which they are applied. -/
def schema : List Migration := [resourceTable]

/-- What the record says against the schema, if anything: first a migration that was not finished, then
one that is not known. -/
def recordProblem? (record : MigrationRecord) : Option MigrationError :=
  match record.dirty with
  | some version => some (.dirty version)
  | none =>
    (record.applied.find? fun a => schema.all fun m => m.version ≠ a.version).map fun a => .unknown a.version

/-- The checksum that the record has for a version. -/
def recordedChecksum? (record : MigrationRecord) (version : Int) : Option String :=
  (record.applied.reverse.find? fun a => a.version = version).map AppliedMigration.checksum

/-- A program that may end with a reason why the schema could not be brought up to date. -/
abbrev Migrating := ExceptT MigrationError Program

/-- Sends a request; `wrap` says what an error means. -/
def Migrating.request (wrap : Error → MigrationError) (r : Request) : Migrating r.Reply :=
  ExceptT.mk (.ask r fun reply => .done (reply.mapError wrap))

/-- Applies one migration in a transaction of its own, unless it was applied before. -/
def applyMigration (record : MigrationRecord) (m : Migration) : Migrating Unit := do
  match recordedChecksum? record m.version with
  | some checksum => if checksum.toLower ≠ m.checksum then throw (.modified m.version)
  | none =>
    let _ ← Migrating.request .failed (.command ⟨"BEGIN", []⟩)
    let _ ← Migrating.request (.failedAt m.version) (.command ⟨m.script, []⟩)
    let _ ← Migrating.request .failed (.command ⟨"COMMIT", []⟩)

/-- Applies every migration that the record lacks. -/
def migrateAll : Migrating Unit := do
  Migrating.request .failed .acquire
  let record ← Migrating.request .failed .migrations
  if let some problem := recordProblem? record then throw problem
  schema.forM (applyMigration record)

/-- Brings the schema up to date. -/
def migrate : Query Unit := ExceptT.mk do
  return (← migrateAll.run).mapError Failure.ofMigration

/-! ## Health -/

/-- Whether the table is there, and the number of its rows if it is. -/
structure Health where
  schemaReady : Bool
  resourceCount : Option Int
deriving DecidableEq, Repr

def tableSql : String := "SELECT to_regclass('resource_info') IS NOT NULL"

def countAllSql : String := "SELECT COUNT(*) FROM resource_info"

/-- Asks the database whether it is ready. -/
def health : Query Health := do
  let context := "Health check failed"
  let rows ← Query.onPool context (.truths ⟨tableSql, []⟩)
  if ← Query.decoded context (single (← Query.first context rows)) then
    let counts ← Query.onPool context (.numbers ⟨countAllSql, []⟩)
    let count ← Query.decoded context (single (← Query.first context counts))
    return { schemaReady := true, resourceCount := some count }
  else return { schemaReady := false, resourceCount := none }

end ResourceCatalog.Database
