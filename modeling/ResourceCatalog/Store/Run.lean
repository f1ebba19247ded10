import ResourceCatalog.Store.Basic

/-!
# Runs of a store

The operations of a store as data, so that a run is a list of them. Clients share one store, and every
operation is one step.
-/

namespace ResourceCatalog.Store

inductive Operation where
  | save (r : Resource)
  | remove (id : ResourceId)
  | find (id : ResourceId)
  | exists (id : ResourceId)
  | list (scope : ListScope) (tenant : TenantId) (link : PageLink)
  | setAvailable (available : Bool)

/-- What an operation answers. -/
inductive Answer where
  | resource (r : Resource)
  | truth (b : Bool)
  | page (p : PageData Resource)
  | done
  | failed (f : Failure)

/-- The answer to an operation that leaves the store as it is. -/
def answerOf {α : Type} (wrap : α → Answer) : Outcome α → Answer
  | .ok a => wrap a
  | .error f => .failed f

/-- The answer to an operation that changes the store if it succeeds. -/
def changeOf {α : Type} (s : Store) (wrap : α → Answer) : Outcome (α × Store) → Answer × Store
  | .ok (a, s') => (wrap a, s')
  | .error f => (.failed f, s)

def step (s : Store) : Operation → Answer × Store
  | .save r => changeOf s .resource (s.save r)
  | .remove id => changeOf s .truth (s.remove id)
  | .find id => (answerOf .resource (s.find id), s)
  | .exists id => (answerOf .truth (s.exists? id), s)
  | .list scope tenant link => (answerOf .page (s.list scope tenant link), s)
  | .setAvailable available => (.done, s.setAvailable available)

/-- The store after some operations. -/
def run (s : Store) : List Operation → Store
  | [] => s
  | op :: ops => run (s.step op).2 ops

/-- The stores that operations lead to from an empty one. -/
def Reachable (s : Store) : Prop := ∃ ops, run empty ops = s

end ResourceCatalog.Store
