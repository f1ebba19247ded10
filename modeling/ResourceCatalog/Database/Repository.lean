import ResourceCatalog.Database.Pattern
import ResourceCatalog.Database.Program
import ResourceCatalog.Page.Data
import ResourceCatalog.Resource.Ordering
import ResourceCatalog.Store.Basic
import ResourceCatalog.Word

/-!
# Resources in the database

The operations of a store as programs. What can be refused without the database is refused before
anything is asked of it. The total of a list and its rows are read in one transaction, so that they agree.
-/

namespace ResourceCatalog.Database

def findSql : String := "SELECT * FROM resource_info WHERE id = $1"

def existsSql : String := "SELECT EXISTS (SELECT 1 FROM resource_info WHERE id = $1)"

def removeSql : String := "DELETE FROM resource_info WHERE id = $1"

/-- Tenant and time of creation are fixed by the first insert. -/
def saveSql : String :=
  "INSERT INTO resource_info (id, created_at, tenant_id, title, resource_type, resource_key) " ++
  "VALUES ($1, $2, $3, $4, $5, $6) " ++
  "ON CONFLICT (id) DO UPDATE SET " ++
  "title = EXCLUDED.title, resource_type = EXCLUDED.resource_type, resource_key = EXCLUDED.resource_key " ++
  "RETURNING *"

/-- The values of a resource in the order of the columns. -/
def saveParams (r : Resource) : List Param :=
  [.uuid r.id.uuid, .instant r.createdAt.microsFrom2000, .uuid r.tenantId.uuid, .text r.title,
    .resourceType r.resourceType, .text r.resourceKey]

/-- The row of an identifier. -/
def find (id : ResourceId) : Query Resource := do
  let context := "Failed to find resource"
  match ← Query.onPool context (.rows ⟨findSql, [.uuid id.uuid]⟩) with
  | row :: _ => Query.decoded context row.resource
  | [] => throw (Store.notFound id)

/-- An identifier has a row. -/
def exists? (id : ResourceId) : Query Bool := do
  let context := "Failed to check resource existence"
  let rows ← Query.onPool context (.truths ⟨existsSql, [.uuid id.uuid]⟩)
  Query.decoded context (single (← Query.first context rows))

/-- Stores a resource and answers with its row. -/
def save (r : Resource) : Query Resource := do
  let context := "Failed to save resource"
  Query.ofOutcome r.check
  let rows ← Query.onPool context (.rows ⟨saveSql, saveParams r⟩)
  Query.decoded context (← Query.first context rows).resource

/-- Takes the row of an identifier away and tells whether there was one. -/
def remove (id : ResourceId) : Query Bool := do
  let affected ← Query.onPool "Failed to remove resource" (.command ⟨removeSql, [.uuid id.uuid]⟩)
  return 0 < affected

/-! ## Lists -/

/-- The condition on the rows that a query of a tenant covers. The tenant is the first parameter, the system
tenant the second one where it is needed. -/
def scopeCondition : ListScope → String
  | .own => "ri.tenant_id = $1"
  | .visible =>
    "(ri.tenant_id = $1 OR (ri.tenant_id = $2 AND NOT EXISTS (" ++
    "SELECT 1 FROM resource_info sr WHERE sr.tenant_id = $1 " ++
    "AND sr.resource_type = ri.resource_type AND sr.resource_key = ri.resource_key)))"

def scopeParams (scope : ListScope) (tenant : TenantId) : List Param :=
  match scope with
  | .own => [.uuid tenant.uuid]
  | .visible => [.uuid tenant.uuid, .uuid TenantId.system.uuid]

/-- The condition and the parameters of a search, whose first parameter has the number `next`. -/
def searchCondition (next : Nat) : Option SearchTerm → String × List Param
  | none => ("", [])
  | some term =>
    (" AND ri.title ILIKE " ++ place next ++ " ESCAPE '\\'",
     [.text (String.ofList (likePattern term.chars))])

/-- The condition of a list and its parameters. -/
def listCondition (scope : ListScope) (tenant : TenantId) (link : PageLink) : String × List Param :=
  let params := scopeParams scope tenant
  let (search, searchParams) := searchCondition (params.length + 1) link.search
  (scopeCondition scope ++ search, params ++ searchParams)

/-- Counts the rows of the whole list. -/
def countStatement (scope : ListScope) (tenant : TenantId) (link : PageLink) : Statement :=
  let (condition, params) := listCondition scope tenant link
  ⟨"SELECT COUNT(*) FROM resource_info ri WHERE " ++ condition, params⟩

/-- Fetches the rows of one page. -/
def pageStatement (scope : ListScope) (tenant : TenantId) (ordering : ResourceOrdering) (link : PageLink) :
    Statement :=
  let (condition, params) := listCondition scope tenant link
  ⟨"SELECT ri.* FROM resource_info ri WHERE " ++ condition ++ " ORDER BY " ++ ordering.sql ++
      " LIMIT " ++ place (params.length + 1) ++ " OFFSET " ++ place (params.length + 2),
    params ++ [.number link.limit, .number link.offset]⟩

/-- A number that a parameter of 64 bits can hold. -/
def fits (what : String) (n : Nat) : Outcome Unit :=
  if (n : Int) < Word.bound64 then .ok () else .error (.validation (what ++ " is out of range"))

/-- One page of a list. -/
def list (scope : ListScope) (tenant : TenantId) (link : PageLink) : Query (PageData Resource) := do
  let ordering ← Query.ofOutcome (ResourceOrdering.ofLink link)
  Query.ofOutcome (fits "Page size" link.limit)
  Query.ofOutcome (fits "Page offset" link.offset)
  let _ ← Query.onPool "Failed to begin read transaction" (.command ⟨"BEGIN", []⟩)
  let _ ← Query.request "Failed to configure read transaction"
    (.command ⟨"SET TRANSACTION ISOLATION LEVEL REPEATABLE READ, READ ONLY", []⟩)
  let context := "Failed to count resources"
  let counts ← Query.request context (.numbers (countStatement scope tenant link))
  let total ← Query.decoded context (single (← Query.first context counts))
  let context := "Failed to list resources"
  let rows ← Query.request context (.rows (pageStatement scope tenant ordering link))
  let resources ← Query.decoded context (rows.mapM Row.resource)
  let _ ← Query.request "Failed to finish read transaction" (.command ⟨"COMMIT", []⟩)
  if total < 0 then throw (.internal s!"Resource count is negative: {total}")
  return .ofLink resources total.toNat link

end ResourceCatalog.Database
