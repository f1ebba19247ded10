import ResourceCatalog.Toml.Line

/-!
# TOML documents

The lines of a text form one table. A table is made by its heading, by a longer heading or by a dotted key;
each way decides what may be added to it later. Nothing is given twice, and a value in a text, a list in
brackets or a table in braces is complete where it stands.
-/

namespace ResourceCatalog.Toml

/-- A value of a document. -/
inductive Value where
  | text (s : String)
  | integer (n : Int)
  | real (x : Float)
  | truth (b : Bool)
  | moment (text : String)
  | list (items : List Value)
  | table (members : List (String × Value))

/-- What made a table. -/
inductive Maker where
  | heading
  /-- A heading of a table below it. -/
  | longerHeading
  | dottedKey
deriving DecidableEq, Repr

/-- What stands under a name while a document is being read. -/
inductive Entry where
  /-- A complete value. -/
  | value (v : Value)
  | table (maker : Maker) (members : List (String × Entry))
  /-- The tables of a list that headings add to, the last one first. -/
  | tables (last : List (String × Entry)) (earlier : List (List (String × Entry)))

abbrev Members := List (String × Entry)

/-- Puts an entry under a name, in place of the one that is there. -/
def setEntry (name : String) (entry : Entry) : Members → Members
  | [] => [(name, entry)]
  | (other, e) :: rest => if other = name then (name, entry) :: rest else (other, e) :: setEntry name entry rest

/-- Changes the table that a key leads to; names on the way that are not there become tables. -/
def below (key : Key) (dotted : Bool) (change : Option Maker → Members → Option Members) (maker : Option Maker)
    (members : Members) : Option Members :=
  match key with
  | [] => change maker members
  | name :: rest =>
    match members.lookup name with
    | none => do
      let newMaker := if dotted then .dottedKey else .longerHeading
      let inner ← below rest dotted change (some newMaker) []
      return setEntry name (.table newMaker inner) members
    | some (.table old inner) =>
      if dotted ∧ old = .heading then none
      else do
        let inner ← below rest dotted change (some old) inner
        return setEntry name (.table old inner) members
    | some (.tables last earlier) => do
      let last ← below rest dotted change (some .heading) last
      return setEntry name (.tables last earlier) members
    | some (.value _) => none

/-- The table that a heading names: a new one, or one that only longer headings have made so far. -/
def openTable (name : String) (members : Members) : Option Members :=
  match members.lookup name with
  | none => some (setEntry name (.table .heading []) members)
  | some (.table .longerHeading inner) => some (setEntry name (.table .heading inner) members)
  | some _ => none

/-- One more table of the list that a heading names. -/
def openEntry (name : String) (members : Members) : Option Members :=
  match members.lookup name with
  | none => some (setEntry name (.tables [] []) members)
  | some (.tables last earlier) => some (setEntry name (.tables [] (last :: earlier)) members)
  | some _ => none

/-- Gives a name a value that has none. A dotted key does not end in a table that has a heading. -/
def addValue (name : String) (plain : Bool) (v : Value) (maker : Option Maker) (members : Members) :
    Option Members :=
  if !plain && maker == some .heading then none
  else if (members.lookup name).isSome then none
  else some (setEntry name (.value v) members)

/-- Adds a pair to a table. -/
def addPair (key : Key) (v : Value) (maker : Option Maker) (members : Members) : Option Members :=
  match key.getLast? with
  | some name => below key.dropLast true (addValue name (key.length = 1) v) maker members
  | none => none

/-! ## Values -/

mutual

/-- The value of an entry. -/
def Entry.toValue : Entry → Value
  | .value v => v
  | .table _ members => .table (membersToValues members)
  | .tables last earlier => .list (tablesToValues earlier [.table (membersToValues last)])

def membersToValues : List (String × Entry) → List (String × Value)
  | [] => []
  | (name, entry) :: rest => (name, entry.toValue) :: membersToValues rest

def tablesToValues : List (List (String × Entry)) → List Value → List Value
  | [], later => later
  | members :: earlier, later => tablesToValues earlier (.table (membersToValues members) :: later)

end

mutual

/-- The value that is written, if its tables in braces give nothing twice. -/
def Written.value? : Written → Option Value
  | .text s => some (.text s)
  | .integer n => some (.integer n)
  | .real x => some (.real x)
  | .truth b => some (.truth b)
  | .moment text => some (.moment text)
  | .list items => (writtenItems? items).map .list
  | .braces pairs => (writtenPairs? pairs []).map fun members => .table (membersToValues members)

def writtenItems? : List Written → Option (List Value)
  | [] => some []
  | item :: rest => do
    let v ← item.value?
    let vs ← writtenItems? rest
    return v :: vs

/-- Adds pairs to the members of a table in braces. -/
def writtenPairs? : List (Key × Written) → Members → Option Members
  | [], members => some members
  | (key, value) :: rest, members => do
    let v ← value.value?
    writtenPairs? rest (← addPair key v none members)

end

/-! ## Documents -/

/-- What has been read of a document: its table, and the heading that pairs belong under. -/
structure Document where
  members : Members := []
  heading : Key := []

/-- Adds a line to a document. -/
def Document.add (d : Document) : Line → Option Document
  | .table key => do
    let name ← key.getLast?
    let members ← below key.dropLast false (fun _ => openTable name) none d.members
    return { members, heading := key }
  | .entry key => do
    let name ← key.getLast?
    let members ← below key.dropLast false (fun _ => openEntry name) none d.members
    return { members, heading := key }
  | .pair key written => do
    let v ← written.value?
    let members ← below d.heading false (addPair key v) none d.members
    return { d with members }

/-- The members of the table that a text describes. -/
def parse? (text : String) : Option (List (String × Value)) := do
  let document ← (← lines? text.toList).foldlM Document.add {}
  return membersToValues document.members

end ResourceCatalog.Toml
