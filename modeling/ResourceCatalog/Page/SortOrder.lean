import ResourceCatalog.Failure
import ResourceCatalog.Json.Reader
import ResourceCatalog.Json.Value

/-!
# Sort orders

The order that a caller asks for: the name of a property and a direction. The name is kept as it was
given; what sorts by it decides whether it knows the name.
-/

namespace ResourceCatalog

inductive SortDirection where
  | asc
  | desc
deriving DecidableEq, Repr

namespace SortDirection

def keyword : SortDirection → String
  | asc => "ASC"
  | desc => "DESC"

/-- Turns the outcome of an ascending comparison into that of a comparison in this direction. -/
def apply : SortDirection → Ordering → Ordering
  | asc, o => o
  | desc, o => o.swap

/-- The keywords in any letter case. -/
def parse (s : String) : Outcome SortDirection :=
  match s.toList.map Char.toUpper with
  | ['A', 'S', 'C'] => .ok asc
  | ['D', 'E', 'S', 'C'] => .ok desc
  | _ => .error (.validation ("Invalid sort direction: '" ++ s ++ "'. Expected ASC or DESC"))

def json (d : SortDirection) : Json.Value := .text d.keyword

def read : Json.Reader SortDirection := Json.readChoice [("ASC", asc), ("DESC", desc)]

end SortDirection

structure SortOrder where
  property : String
  direction : SortDirection := .asc
deriving DecidableEq, Repr

namespace SortOrder

def json (o : SortOrder) : Json.Value :=
  .map [("property", .text o.property), ("direction", o.direction.json)]

/-- What has been read of the fields. -/
structure Fields where
  property : Option String := none
  direction : Option SortDirection := none

def Fields.take (f : Fields) : String → Option (Json.Reader Fields)
  | "property" => some (Json.readField "property" f.property Json.readString fun v => { f with property := some v })
  | "direction" =>
    some (Json.readField "direction" f.direction SortDirection.read fun v => { f with direction := some v })
  | _ => none

def Fields.finish (f : Fields) : Except Json.Error SortOrder := do
  return { property := ← Json.required "property" f.property, direction := f.direction.getD .asc }

def readItems : Json.Items SortOrder := do
  let property ← Json.Items.next 0 "struct SortOrder with 2 elements" Json.readString
  let direction ← Json.Items.nextD SortDirection.read .asc
  return { property, direction }

def read : Json.Reader SortOrder :=
  Json.readRecord "struct SortOrder" readItems fun members => do
    (← Json.foldMembers Fields.take {} members).finish

end SortOrder

end ResourceCatalog
