import ResourceCatalog.Page.Link
import ResourceCatalog.Resource.Basic
import ResourceCatalog.Text.CodeOrder

/-!
# Orders of resources

A list of resources is sorted by one property in either direction, and resources that agree on it by
their identifiers in ascending order, so that a resource has one place in every list.
-/

namespace ResourceCatalog

/-- What resources can be sorted by. -/
inductive ResourceProperty where
  | createdTime
  | title
  | resourceType
  | resourceKey
  | tenantId
  | id
deriving DecidableEq, Repr

namespace ResourceProperty

def name : ResourceProperty → String
  | createdTime => "createdTime"
  | title => "title"
  | resourceType => "resourceType"
  | resourceKey => "resourceKey"
  | tenantId => "tenantId"
  | id => "id"

/-- The column of the table that holds the property. -/
def column : ResourceProperty → String
  | createdTime => "created_at"
  | title => "title"
  | resourceType => "resource_type"
  | resourceKey => "resource_key"
  | tenantId => "tenant_id"
  | id => "id"

/-- What a statement sorts by: the column, text columns by code point. -/
def expression : ResourceProperty → String
  | title => "title COLLATE \"C\""
  | resourceKey => "resource_key COLLATE \"C\""
  | p => p.column

/-- The names that callers may use. -/
def names : List (String × ResourceProperty) :=
  [("createdTime", createdTime), ("createdAt", createdTime), ("created_time", createdTime),
   ("created_at", createdTime), ("title", title), ("resourceType", resourceType),
   ("resource_type", resourceType), ("resourceKey", resourceKey), ("resource_key", resourceKey),
   ("tenantId", tenantId), ("tenant_id", tenantId), ("id", id)]

/-- Reads one of the names between blanks. -/
def parse (s : String) : Outcome ResourceProperty :=
  match names.find? fun entry => entry.1.toList = Text.trim s.toList with
  | some (_, p) => .ok p
  | none =>
    .error (.validation ("Unsupported sort property: '" ++ s ++
      "'. Expected one of: createdTime, title, resourceType, resourceKey, tenantId, id"))

/-- Compares two resources by the property, ascending. -/
def compare (p : ResourceProperty) (a b : Resource) : Ordering :=
  match p with
  | createdTime => a.createdAt.order b.createdAt
  | title => Text.codeOrder a.title.toList b.title.toList
  | resourceType => a.resourceType.order b.resourceType
  | resourceKey => Text.codeOrder a.resourceKey.toList b.resourceKey.toList
  | tenantId => a.tenantId.order b.tenantId
  | id => a.id.order b.id

end ResourceProperty

/-- The order of a list of resources: a property in some direction, then the identifier. -/
structure ResourceOrdering where
  property : ResourceProperty
  direction : SortDirection
deriving DecidableEq, Repr

namespace ResourceOrdering

/-- The order of creation, used when no other is asked for. -/
def creation : ResourceOrdering := ⟨.createdTime, .asc⟩

/-- The order that a link asks for. -/
def ofLink (link : PageLink) : Outcome ResourceOrdering :=
  match link.sortOrder with
  | some order => (ResourceProperty.parse order.property).map fun p => ⟨p, order.direction⟩
  | none => .ok creation

def compare (o : ResourceOrdering) (a b : Resource) : Ordering :=
  (o.direction.apply (o.property.compare a b)).then (a.id.order b.id)

/-- The sort keys of a statement. -/
def sql (o : ResourceOrdering) : String :=
  match o.property with
  | .id => "id " ++ o.direction.keyword
  | p => p.expression ++ " " ++ o.direction.keyword ++ ", id ASC"

/-- The resources in this order; those that it does not tell apart stay as they were. -/
def sort (o : ResourceOrdering) (rs : List Resource) : List Resource :=
  rs.mergeSort fun a b => (o.compare a b).isLE

end ResourceOrdering

end ResourceCatalog
