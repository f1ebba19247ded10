import ResourceCatalog.Database.Error
import ResourceCatalog.Database.Statement
import ResourceCatalog.Resource.Basic

/-!
# Rows of the table

A row as the database sends it, where a column may be null and a type may be any text, and the
resource that it stands for. Columns are read in the order of the resource's fields, and the first one
that does not fit is reported.
-/

namespace ResourceCatalog.Database

structure Row where
  id : Option Id.Uuid
  /-- Microseconds from the start of 2000. -/
  createdAt : Option Int
  tenantId : Option Id.Uuid
  title : Option String
  resourceType : Option String
  resourceKey : Option String
deriving DecidableEq, Repr

/-- What is said of a null where a value is needed. -/
def unexpectedNull : String := "unexpected null; try decoding as an \x60Option\x60"

/-- A column between the quotes in which reports name it. -/
def columnName (name : String) : String := "\"" ++ name ++ "\""

/-- The value of a column that must not be null. -/
def present {α : Type} (column : String) : Option α → Except Error α
  | some a => .ok a
  | none => .error (.columnDecode column unexpectedNull)

/-- The only column of a row that holds a single value. -/
def single {α : Type} (value : Option α) : Except Error α := present "0" value

/-- The instant of a column. -/
def instantOf (column : String) (micros : Int) : Except Error Time.Timestamp :=
  match Time.Timestamp.ofMicrosFrom2000? micros with
  | some t => .ok t
  | none => .error (.columnDecode column "instant out of range")

/-- The resource type of a column. -/
def typeOf (column name : String) : Except Error ResourceType :=
  match ResourceType.ofName? name with
  | some t => .ok t
  | none =>
    .error (.columnDecode column ("invalid value " ++ Text.quoted name ++ " for enum ResourceType"))

/-- The resource of a row. -/
def Row.resource (row : Row) : Except Error Resource := do
  let id ← present (columnName "id") row.id
  let createdAt ← instantOf (columnName "created_at") (← present (columnName "created_at") row.createdAt)
  let tenantId ← present (columnName "tenant_id") row.tenantId
  let title ← present (columnName "title") row.title
  let resourceType ←
    typeOf (columnName "resource_type") (← present (columnName "resource_type") row.resourceType)
  let resourceKey ← present (columnName "resource_key") row.resourceKey
  return { id := ⟨id⟩, createdAt, tenantId := ⟨tenantId⟩, title, resourceType, resourceKey }

/-- The row that a resource is stored as. -/
def Row.ofResource (r : Resource) : Row :=
  { id := some r.id.uuid, createdAt := some r.createdAt.microsFrom2000, tenantId := some r.tenantId.uuid,
    title := some r.title, resourceType := some r.resourceType.name, resourceKey := some r.resourceKey }

end ResourceCatalog.Database
