import ResourceCatalog.Id.Basic
import ResourceCatalog.Resource.Type
import ResourceCatalog.Text.Lowercase
import ResourceCatalog.Time.Parser

/-!
# Resources

What is known of an artefact that a tenant owns; the artefact itself is kept elsewhere. A tenant has
at most one resource of a type under a key.
-/

namespace ResourceCatalog

structure Resource where
  id : ResourceId
  createdAt : Time.Timestamp
  tenantId : TenantId
  title : String
  resourceType : ResourceType
  resourceKey : String
deriving DecidableEq, Repr

namespace Resource

/-- A resource made at a given time, which is kept to the microsecond. -/
def make (id : ResourceId) (now : Time.Timestamp) (tenantId : TenantId) (title : String)
    (resourceType : ResourceType) (resourceKey : String) : Resource :=
  { id, createdAt := now.truncated, tenantId, title, resourceType, resourceKey }

/-- The resource belongs to the tenant whose resources everyone sees. -/
def isSystem (r : Resource) : Bool := r.tenantId.isSystem

/-- At most one resource has this tenant, type and key. -/
def naturalKey (r : Resource) : TenantId × ResourceType × String := (r.tenantId, r.resourceType, r.resourceKey)

/-! ## Checks -/

/-- The greatest length of a title or a key. -/
def maxLength : Nat := 255

/-- What is wrong with a text that has to be given. -/
def textProblems (missing : String) (s : String) : List String :=
  (if s.length = 0 ∨ maxLength < s.length then [missing] else []) ++
    (if Text.trim s.toList = [] then ["must not be blank"] else [])

/-- The line of a field, if something is wrong with it. -/
def problemLine (field missing s : String) : List String :=
  match textProblems missing s with
  | [] => []
  | problems => [field ++ ": " ++ ", ".intercalate problems]

def problemLines (r : Resource) : List String :=
  problemLine "resource_key" "Resource key should be specified" r.resourceKey ++
    problemLine "title" "Resource title should be specified" r.title

/-- Refuses a resource whose title or key is missing, too long or blank. -/
def check (r : Resource) : Outcome Unit :=
  match r.problemLines with
  | [] => .ok ()
  | lines => .error (.validation ("Invalid resource " ++ r.id.text ++ ": " ++ "\n".intercalate lines))

/-! ## Search -/

/-- The title contains the term, letter case aside. -/
def titleMatches (r : Resource) (term : List Char) : Bool :=
  Text.hasInfix (Text.lowercase term) (Text.lowercase r.title.toList)

/-! ## JSON -/

def timestampJson (t : Time.Timestamp) : Json.Value := .text t.text

def json (r : Resource) : Json.Value :=
  .map [("id", r.id.json), ("createdAt", timestampJson r.createdAt), ("tenantId", r.tenantId.json),
    ("title", .text r.title), ("resourceType", r.resourceType.json), ("resourceKey", .text r.resourceKey)]

def readTimestamp : Json.Reader Time.Timestamp :=
  Json.readParsed "an RFC 3339 formatted date and time string" fun s =>
    (Time.Timestamp.parse s.toList).mapError Time.Malformed.message

/-- What has been read of the fields. -/
structure Fields where
  id : Option ResourceId := none
  createdAt : Option Time.Timestamp := none
  tenantId : Option TenantId := none
  title : Option String := none
  resourceType : Option ResourceType := none
  resourceKey : Option String := none

def Fields.take (f : Fields) : String → Option (Json.Reader Fields)
  | "id" => some (Json.readField "id" f.id ResourceId.read fun v => { f with id := some v })
  | "createdAt" =>
    some (Json.readField "createdAt" f.createdAt readTimestamp fun v => { f with createdAt := some v })
  | "tenantId" => some (Json.readField "tenantId" f.tenantId TenantId.read fun v => { f with tenantId := some v })
  | "title" => some (Json.readField "title" f.title Json.readString fun v => { f with title := some v })
  | "resourceType" =>
    some (Json.readField "resourceType" f.resourceType ResourceType.read fun v =>
      { f with resourceType := some v })
  | "resourceKey" =>
    some (Json.readField "resourceKey" f.resourceKey Json.readString fun v => { f with resourceKey := some v })
  | _ => none

def Fields.finish (f : Fields) : Except Json.Error Resource := do
  return { id := ← Json.required "id" f.id
           createdAt := ← Json.required "createdAt" f.createdAt
           tenantId := ← Json.required "tenantId" f.tenantId
           title := ← Json.required "title" f.title
           resourceType := ← Json.required "resourceType" f.resourceType
           resourceKey := ← Json.required "resourceKey" f.resourceKey }

def readItems : Json.Items Resource := do
  let record := "struct ResourceInfo with 6 elements"
  let id ← Json.Items.next 0 record ResourceId.read
  let createdAt ← Json.Items.next 1 record readTimestamp
  let tenantId ← Json.Items.next 2 record TenantId.read
  let title ← Json.Items.next 3 record Json.readString
  let resourceType ← Json.Items.next 4 record ResourceType.read
  let resourceKey ← Json.Items.next 5 record Json.readString
  return { id, createdAt, tenantId, title, resourceType, resourceKey }

def read : Json.Reader Resource :=
  Json.readRecord "struct ResourceInfo" readItems fun members => do
    (← Json.foldMembers Fields.take {} members).finish

end Resource

end ResourceCatalog
