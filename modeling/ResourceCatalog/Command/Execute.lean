import ResourceCatalog.Catalog
import ResourceCatalog.Command.Output
import ResourceCatalog.Config.Settings
import ResourceCatalog.Page.Walk

/-!
# Carrying out commands

A command line is carried out with services: a connection to the store, its schema and its resources. The
answer is what was printed and the failure that ended the command, if any.
-/

namespace ResourceCatalog.Command

/-- What the program needs from outside. -/
structure Services (m : Type → Type) where
  connect : Config.Settings → ExceptT Failure m Unit
  migrate : ExceptT Failure m Unit
  health : ExceptT Failure m Database.Health
  catalog : Catalog m

/-- What a new resource gets: an identifier, and the time. -/
structure Fresh where
  id : ResourceId
  now : Time.Timestamp

/-- What a command line did: the address that was connected to, what was printed, and the failure that
ended it. -/
structure Report where
  url : Option String := none
  printed : String := ""
  failure : Option Failure := none

def Report.exitCode (r : Report) : Nat := if r.failure.isSome then 1 else 0

/-- What was printed of the failure. -/
def Report.complaint (r : Report) : String := (r.failure.map failureLine).getD ""

/-! ## Resources -/

/-- The link that the arguments of a list describe. -/
def ListArgs.link (a : ListArgs) : Outcome PageLink := do
  let link ← PageLink.ofRaw a.pageSize a.page
  let link := match a.search with
    | some s => link.withSearch s
    | none => link
  return match a.sort with
    | some property => link.withSortOrder { property, direction := if a.desc then .desc else .asc }
    | none => link

def ListArgs.scope (a : ListArgs) : ListScope := if a.ownOnly then .own else .visible

/-- The resource that the arguments of a save describe. -/
def SaveArgs.resource (a : SaveArgs) (fresh : Fresh) : Resource :=
  .make (a.id.getD fresh.id) fresh.now a.tenant a.title a.resourceType a.key

variable {m : Type → Type} [Monad m]

/-- One page of a list. -/
def listPage (c : Catalog m) (a : ListArgs) (link : PageLink) : ExceptT Failure m (PageData Resource) :=
  c.list a.scope a.tenant link

/-- The items of a page and of all pages after it. -/
def listAll (c : Catalog m) (a : ListArgs) (link : PageLink) : ExceptT Failure m (List Resource) := do
  match ← walk (listPage c a) link with
  | some w => return w.items
  | none => throw (.internal "The list has more pages than can be numbered")

/-- Carries out a command on resources. -/
def runResource (c : Catalog m) (fresh : Fresh) : ResourceCommand → ExceptT Failure m Result
  | .list a => do
    let link ← ExceptT.mk (pure a.link)
    if a.allPages then return .all (← listAll c a link) else return .page (← listPage c a link)
  | .get id => do return .item (← c.find id)
  | .save a => do return .item (← c.save (a.resource fresh))
  | .delete id => do return .removed id (← c.remove id)

/-! ## All commands -/

/-- What is printed before the schema is brought up to date. -/
def migrationNotice : String := "Running database migrations...\n"

/-- Carries out an action on a store that is connected. -/
def runAction (services : Services m) (fresh : Fresh) (format : OutputFormat) (action : Action) (r : Report) :
    m Report := do
  match action with
  | .migrate .run =>
    let r := { r with printed := migrationNotice }
    match ← services.migrate.run with
    | .ok () => return { r with printed := r.printed ++ successLine "All migrations applied successfully." }
    | .error e => return { r with failure := some e }
  | .migrate .check =>
    match ← services.health.run with
    | .ok h => return { r with printed := healthText h }
    | .error e => return { r with failure := some e }
  | .resource command =>
    match ← (runResource services.catalog fresh command).run with
    | .ok result => return { r with printed := result.printed format }
    | .error e => return { r with failure := some e }

/-- Carries out a command line with the settings that were loaded for it. -/
def execute (services : Services m) (settings : Outcome Config.Settings) (fresh : Fresh) (i : Invocation) :
    m Report := do
  match settings with
  | .error e => return { failure := some e }
  | .ok settings =>
    let r : Report := { url := some settings.database.url }
    match ← (services.connect settings).run with
    | .ok () => runAction services fresh i.format i.action r
    | .error e => return { r with failure := some e }

end ResourceCatalog.Command
