import ResourceCatalog.Command.Arguments
import ResourceCatalog.Command.Table
import ResourceCatalog.Database.Schema
import ResourceCatalog.Page.Data

/-! What the commands print: tables and fields for people, or pretty JSON. -/

namespace ResourceCatalog.Command

/-- The result of a command on resources. -/
inductive Result where
  | page (p : PageData Resource)
  /-- The items of several pages. -/
  | all (items : List Resource)
  | item (r : Resource)
  | removed (id : ResourceId) (removed : Bool)

def Result.json : Result → Json.Value
  | .page p => p.json Resource.json
  | .all items => .list (items.map Resource.json)
  | .item r => r.json
  | .removed id done => .map [("id", id.json), ("removed", .truth done)]

def withNewline (s : String) : String := s ++ "\n"

/-- A line that tells of success. -/
def successLine (message : String) : String := "✓ " ++ message ++ "\n"

/-- A line that tells of a failure. -/
def failureLine (failure : Failure) : String := "✗ " ++ failure.text ++ "\n"

/-- A name and its value, the values of all lines below each other. -/
def fieldLine (name value : String) : String :=
  let label := name ++ ":"
  "  " ++ label ++ String.ofList (List.replicate (24 - label.length) ' ') ++ " " ++ value ++ "\n"

/-! ## Tables of resources -/

def tableHeader : List String := ["id", "tenant", "title", "type", "key", "created"]

def tableRow (r : Resource) : List String :=
  [r.id.text, if r.isSystem then "system" else r.tenantId.text, r.title, r.resourceType.name, r.resourceKey,
    r.createdAt.shortText]

def resourceTable (rs : List Resource) : String :=
  match rs with
  | [] => "No results found.\n"
  | _ => withNewline (tableText (tableHeader :: rs.map tableRow))

def totalsLine (p : PageData Resource) : String :=
  s!"{p.totalElements} resource(s) across {p.totalPages} page(s)" ++
    (if p.hasNext then ", more available" else "") ++ "\n"

/-! ## Results -/

def Result.text : Result → String
  | .page p => resourceTable p.data ++ totalsLine p
  | .all items => resourceTable items
  | .item r =>
    fieldLine "id" r.id.text ++ fieldLine "tenant" r.tenantId.text ++ fieldLine "title" r.title ++
      fieldLine "type" r.resourceType.name ++ fieldLine "key" r.resourceKey ++
      fieldLine "created" r.createdAt.textWithOffset
  | .removed id true => successLine ("Resource " ++ id.text ++ " deleted.")
  | .removed id false => successLine ("Resource " ++ id.text ++ " did not exist; nothing to delete.")

/-- What a result is printed as. -/
def Result.printed (result : Result) : OutputFormat → String
  | .table => result.text
  | .json => withNewline result.json.pretty

/-- What the state of the database is printed as. -/
def healthText (h : Database.Health) : String :=
  fieldLine "database" "reachable" ++
    fieldLine "schema" (if h.schemaReady then "ready" else "missing, run \x60resdao migrate run\x60") ++
    match h.resourceCount with
    | some n => fieldLine "resources" (toString n)
    | none => ""

end ResourceCatalog.Command
