import ResourceCatalog.Database.Repository
import ResourceCatalog.Store.Basic

/-!
# Catalogs

What can be done with stored resources, whatever stores them. The store in memory and the database are
both catalogs.
-/

namespace ResourceCatalog

/-- The operations on stored resources, as actions of `m` that may fail. -/
structure Catalog (m : Type → Type) where
  find : ResourceId → ExceptT Failure m Resource
  exists? : ResourceId → ExceptT Failure m Bool
  save : Resource → ExceptT Failure m Resource
  remove : ResourceId → ExceptT Failure m Bool
  list : ListScope → TenantId → PageLink → ExceptT Failure m (PageData Resource)

/-- An operation that leaves the store as it is. -/
def Store.ask {α : Type} (f : Store → Outcome α) : ExceptT Failure (StateM Store) α :=
  ExceptT.mk fun s => (f s, s)

/-- An operation that changes the store if it succeeds. -/
def Store.update {α : Type} (f : Store → Outcome (α × Store)) : ExceptT Failure (StateM Store) α :=
  ExceptT.mk fun s =>
    match f s with
    | .ok (a, s') => (.ok a, s')
    | .error e => (.error e, s)

/-- The store in memory. -/
def Store.catalog : Catalog (StateM Store) :=
  { find := fun id => ask (·.find id)
    exists? := fun id => ask (·.exists? id)
    save := fun r => update (·.save r)
    remove := fun id => update (·.remove id)
    list := fun scope tenant link => ask (·.list scope tenant link) }

/-- The database. -/
def Database.catalog : Catalog Database.Program :=
  { find := Database.find, exists? := Database.exists?, save := Database.save,
    remove := Database.remove, list := Database.list }

/-- A catalog that puts the same time of creation on everything it is given to save. -/
def Catalog.stampedWith {m : Type → Type} (now : Time.Timestamp) (c : Catalog m) : Catalog m :=
  { c with save := fun r => c.save { r with createdAt := now } }

end ResourceCatalog
