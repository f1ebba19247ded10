import ResourceCatalog.Id.Uuid
import ResourceCatalog.Resource.Type

/-! Statements for the database: a text with numbered places, and the values bound to them. -/

namespace ResourceCatalog.Database

/-- A value bound to a place of a statement. -/
inductive Param where
  | uuid (u : Id.Uuid)
  | text (s : String)
  | number (n : Int)
  /-- An instant, in microseconds from the start of 2000. -/
  | instant (micros : Int)
  | resourceType (t : ResourceType)
deriving DecidableEq, Repr

structure Statement where
  sql : String
  params : List Param := []
deriving DecidableEq, Repr

/-- The place of the parameter with the given number, counted from one. -/
def place (n : Nat) : String := "$" ++ toString n

end ResourceCatalog.Database
