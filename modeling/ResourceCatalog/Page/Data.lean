import ResourceCatalog.Page.Link

/-!
# Pages

One page of the answer to a list query, with totals over all pages. Pages read from JSON are checked:
totals that no list and page size give are refused.
-/

namespace ResourceCatalog

structure PageData (α : Type) where
  data : List α
  totalPages : Nat
  totalElements : Nat
  hasNext : Bool
deriving DecidableEq, Repr

namespace PageData

variable {α β : Type}

/-- The quotient, rounded up. -/
def ceilDiv (n d : Nat) : Nat := n / d + (if n % d = 0 then 0 else 1)

/-- The page that answers `link` when the whole list has `total` items. -/
def ofLink (data : List α) (total : Nat) (link : PageLink) : PageData α :=
  let totalPages := ceilDiv total link.limit
  { data, totalPages, totalElements := total, hasNext := link.page + 1 < totalPages }

/-- The page of a list without items. -/
def empty : PageData α := { data := [], totalPages := 0, totalElements := 0, hasNext := false }

/-- Replaces the items and keeps the totals. -/
def map (f : α → β) (p : PageData α) : PageData β := { p with data := p.data.map f }

/-- The totals do not contradict each other or the number of items: a page that another one follows
is full, so its items tell the page size. -/
def checked (p : PageData α) : Outcome (PageData α) :=
  let items := p.data.length
  if p.totalElements < items then
    .error (.validation s!"Page holds {items} items but totalElements is {p.totalElements}")
  else if (p.totalElements = 0) ≠ (p.totalPages = 0) ∨ p.totalElements < p.totalPages then
    .error (.validation s!"totalPages {p.totalPages} does not fit totalElements {p.totalElements}")
  else if p.hasNext ∧ (items = 0 ∨ p.totalPages ≠ ceilDiv p.totalElements items) then
    .error (.validation
      s!"hasNext is set but {items} items do not give {p.totalPages} pages of {p.totalElements} items")
  else .ok p

/-! ## JSON -/

def json (item : α → Json.Value) (p : PageData α) : Json.Value :=
  .map [("data", .list (p.data.map item)), ("totalPages", .integer p.totalPages),
    ("totalElements", .integer p.totalElements), ("hasNext", .truth p.hasNext)]

/-- What has been read of the fields. -/
structure Fields (α : Type) where
  data : Option (List α) := none
  totalPages : Option Nat := none
  totalElements : Option Nat := none
  hasNext : Option Bool := none

def Fields.take (item : Json.Reader α) (f : Fields α) : String → Option (Json.Reader (Fields α))
  | "data" => some (Json.readField "data" f.data (Json.readList item) fun v => { f with data := some v })
  | "totalPages" =>
    some (Json.readField "totalPages" f.totalPages Json.readWord64 fun v => { f with totalPages := some v })
  | "totalElements" =>
    some (Json.readField "totalElements" f.totalElements Json.readWord64 fun v => { f with totalElements := some v })
  | "hasNext" =>
    some (Json.readField "hasNext" f.hasNext Json.readTruth fun v => { f with hasNext := some v })
  | _ => none

def Fields.finish (f : Fields α) : Except Json.Error (PageData α) := do
  return { data := ← Json.required "data" f.data
           totalPages := ← Json.required "totalPages" f.totalPages
           totalElements := ← Json.required "totalElements" f.totalElements
           hasNext := ← Json.required "hasNext" f.hasNext }

def readItems (item : Json.Reader α) : Json.Items (PageData α) := do
  let record := "struct PageDataParams with 4 elements"
  let data ← Json.Items.next 0 record (Json.readList item)
  let totalPages ← Json.Items.next 1 record Json.readWord64
  let totalElements ← Json.Items.next 2 record Json.readWord64
  let hasNext ← Json.Items.next 3 record Json.readTruth
  return { data, totalPages, totalElements, hasNext }

/-- Reads a page without checking its totals. -/
def readUnchecked (item : Json.Reader α) : Json.Reader (PageData α) :=
  Json.readRecord "struct PageDataParams" (readItems item) fun members => do
    (← Json.foldMembers (Fields.take item) {} members).finish

/-- Reads a page and checks its totals. -/
def read (item : Json.Reader α) : Json.Reader (PageData α) := fun tree => do
  match (← readUnchecked item tree).checked with
  | .ok p => .ok p
  | .error e => Json.refuse (.refused e.text)

end PageData

end ResourceCatalog
