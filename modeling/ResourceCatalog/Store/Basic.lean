import ResourceCatalog.Page.Walk
import ResourceCatalog.Resource.Ordering
import ResourceCatalog.Store.Rows

/-!
# The store in memory

Rows, and whether the store can be reached. A list query sees the rows of a tenant, and on request
those of the system tenant that the tenant has not replaced by a row of its own with the same type
and key. A failing operation leaves the store as it is.
-/

namespace ResourceCatalog

/-- Which rows a list query of a tenant covers. -/
inductive ListScope where
  /-- Rows that the tenant owns. -/
  | own
  /-- Rows that the tenant owns, and rows of the system tenant that it has not replaced. -/
  | visible
deriving DecidableEq, Repr

structure Store where
  rows : Rows
  available : Bool

namespace Store

/-- A store without rows, which can be reached. -/
def empty : Store := { rows := .empty, available := true }

def ensureAvailable (s : Store) : Outcome Unit :=
  if s.available then .ok () else .error (.storeUnavailable "In-memory resource store is offline")

def setAvailable (s : Store) (available : Bool) : Store := { s with available }

def notFound (id : ResourceId) : Failure := .notFound ("Resource " ++ id.text ++ " not found")

/-- The row of an identifier. -/
def find (s : Store) (id : ResourceId) : Outcome Resource := do
  s.ensureAvailable
  match s.rows.get? id with
  | some row => .ok row
  | none => .error (notFound id)

/-- An identifier has a row. -/
def exists? (s : Store) (id : ResourceId) : Outcome Bool := do
  s.ensureAvailable
  return s.rows.contains id

/-- The row that saving a resource stores: tenant and time of creation stay those of the first save. -/
def stored (rows : Rows) (r : Resource) : Resource :=
  match rows.get? r.id with
  | some old => { r with createdAt := old.createdAt, tenantId := old.tenantId }
  | none => r

/-- The first row under another identifier with the same natural key. -/
def clash? (rows : Rows) (r : Resource) : Option Resource :=
  rows.toList.find? fun other => other.id ≠ r.id ∧ other.naturalKey = r.naturalKey

def conflict (r other : Resource) : Failure :=
  .conflict ("Resource with key '" ++ r.resourceKey ++ "' of type " ++ r.resourceType.name ++
    " already exists for tenant " ++ r.tenantId.text ++ " (" ++ other.id.text ++ ")")

/-- Stores a resource and answers with its row. -/
def save (s : Store) (r : Resource) : Outcome (Resource × Store) := do
  r.check
  s.ensureAvailable
  let row := stored s.rows r
  match clash? s.rows row with
  | some other => .error (conflict row other)
  | none => .ok (row, { s with rows := s.rows.insert r.id row })

/-- Takes the row of an identifier away and tells whether there was one. -/
def remove (s : Store) (id : ResourceId) : Outcome (Bool × Store) := do
  s.ensureAvailable
  return (s.rows.contains id, { s with rows := s.rows.erase id })

/-! ## Lists -/

/-- The tenant has a row with the type and the key of `r`. -/
def isReplaced (rows : Rows) (tenant : TenantId) (r : Resource) : Bool :=
  rows.toList.any fun own =>
    own.tenantId = tenant ∧ own.resourceType = r.resourceType ∧ own.resourceKey = r.resourceKey

/-- The query of a tenant covers the row. -/
def covers (rows : Rows) (scope : ListScope) (tenant : TenantId) (r : Resource) : Bool :=
  match scope with
  | .own => r.tenantId = tenant
  | .visible => r.tenantId = tenant ∨ r.isSystem ∧ !isReplaced rows tenant r

/-- The row has the text that the link searches for. -/
def matchesSearch (link : PageLink) (r : Resource) : Bool :=
  match link.search with
  | some term => r.titleMatches term.chars
  | none => true

/-- The rows of the whole list, in order of their identifiers. -/
def selected (rows : Rows) (scope : ListScope) (tenant : TenantId) (link : PageLink) : List Resource :=
  rows.toList.filter fun r => covers rows scope tenant r && matchesSearch link r

/-- The items of one page. -/
def pageOf {α : Type} (link : PageLink) (items : List α) : List α := (items.drop link.offset).take link.limit

/-- One page of a list. -/
def list (s : Store) (scope : ListScope) (tenant : TenantId) (link : PageLink) : Outcome (PageData Resource) := do
  let ordering ← ResourceOrdering.ofLink link
  s.ensureAvailable
  let sorted := ordering.sort (selected s.rows scope tenant link)
  return .ofLink (pageOf link sorted) sorted.length link

end Store

end ResourceCatalog
