/-!
# Values of configuration sources

What a source gives for its settings: values with the name of the source that they came from. Layers of
such values are put over each other. Tables are joined member by member; everything else takes the place
of what was there.
-/

namespace ResourceCatalog.Config

/-- A value without parts. -/
inductive Scalar where
  | nothing
  | truth (b : Bool)
  | integer (n : Int)
  | real (x : Float)
  | text (s : String)

/-- A value and the source that it came from, where that is known. -/
inductive Value where
  | scalar (s : Scalar) (origin : Option String)
  | list (items : List Value) (origin : Option String)
  | table (members : List (String × Value)) (origin : Option String)

/-- The settings of one source by name. -/
abbrev Layer := List (String × Value)

/-- Gives the member of that name a value, in its place or at the end. -/
def setMember (name : String) (value : Value) : List (String × Value) → List (String × Value)
  | [] => [(name, value)]
  | (other, v) :: rest =>
    if other = name then (name, value) :: rest else (other, v) :: setMember name value rest

/-- The members of a table, and its source; a new table if there is none. -/
def tableIn : Option Value → List (String × Value) × Option String
  | some (.table members origin) => (members, origin)
  | _ => ([], none)

/-- The items of a list, and its source; a new list if there is none. -/
def listIn : Option Value → List Value × Option String
  | some (.list items origin) => (items, origin)
  | _ => ([], none)

mutual

/-- The value with what it gives put over what was there. -/
def Value.over : Value → Option Value → Value
  | .table members _, target =>
    let (old, origin) := tableIn target
    .table (overMembers members old) origin
  | .list items origin, _ => .list items origin
  | .scalar s origin, _ => .scalar s origin

def overMembers : List (String × Value) → List (String × Value) → List (String × Value)
  | [], old => old
  | (name, value) :: rest, old => overMembers rest (setMember name (value.over (old.lookup name)) old)

end

/-! ## Paths -/

/-- A step from a value to one of its parts. -/
inductive Step where
  | member (name : String)
  /-- An item by its place, from the end if that is negative. -/
  | item (index : Int)
deriving DecidableEq, Repr

/-- The items with room for one at the given place, and that place counted from the front. -/
def makeRoom (items : List Value) (index : Int) : List Value × Nat :=
  let filler (n : Nat) := List.replicate n (Value.scalar .nothing none)
  if 0 ≤ index then (items ++ filler (index.toNat + 1 - items.length), index.toNat)
  else if index.natAbs ≤ items.length then (items, items.length - index.natAbs)
  else (filler (index.natAbs - items.length) ++ items, 0)

/-- Puts a value over the part that the steps lead to. Values on the way that have no such part are
replaced. -/
def Value.put (incoming : Value) : List Step → Option Value → Value
  | [], target => incoming.over target
  | .member name :: steps, target =>
    let (members, origin) := tableIn target
    .table (setMember name (incoming.put steps (members.lookup name)) members) origin
  | .item index :: steps, target =>
    let (items, origin) := listIn target
    let (items, place) := makeRoom items index
    .list (items.set place (incoming.put steps items[place]?)) origin

end ResourceCatalog.Config
