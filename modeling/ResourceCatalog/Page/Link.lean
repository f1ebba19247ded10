import ResourceCatalog.Page.SortOrder
import ResourceCatalog.Text.Blank
import ResourceCatalog.Word

/-!
# Page links

What a caller asks of a list: how many items a page has, which page is wanted, and optionally a text
to search for and an order. The sizes are in range by construction.
-/

namespace ResourceCatalog

/-- The greatest number of items that a page may have. -/
def maxPageSize : Nat := 1000

/-- The greatest page number. -/
def maxPage : Nat := 0xFFFFFFFF

/-- A text to search for: not empty, without blanks at its ends. -/
structure SearchTerm where
  chars : List Char
  /-- It is what trimming leaves of some text. -/
  exists_trim_eq : ∃ s, Text.trim s = chars
  ne_nil : chars ≠ []
deriving DecidableEq, Repr

def SearchTerm.text (t : SearchTerm) : String := String.ofList t.chars

structure PageLink where
  pageSize : Nat
  page : Nat
  search : Option SearchTerm := none
  sortOrder : Option SortOrder := none
  pageSize_mem : 1 ≤ pageSize ∧ pageSize ≤ maxPageSize
  page_le : page ≤ maxPage
deriving DecidableEq, Repr

/-- The text without the blanks at its ends, unless nothing else is in it. -/
def SearchTerm.ofChars? (s : List Char) : Option SearchTerm :=
  if h : Text.trim s ≠ [] then some ⟨Text.trim s, ⟨s, rfl⟩, h⟩ else none

namespace PageLink

/-- The link to a page of a given size. -/
def ofSizes (pageSize page : Nat) (page_le : page ≤ maxPage) : Outcome PageLink :=
  if h₀ : pageSize = 0 then .error (.validation "Page size must be greater than 0")
  else if h₁ : maxPageSize < pageSize then
    .error (.validation s!"Page size must not exceed {maxPageSize}, got {pageSize}")
  else .ok { pageSize, page, pageSize_mem := by omega, page_le }

/-- The link for numbers that nobody has checked. A size beyond 32 bits is refused before it is repeated. -/
def ofRaw (pageSize page : Int) : Outcome PageLink :=
  if page < 0 then .error (.validation s!"Page index must be non-negative, got {page}")
  else if pageSize ≤ 0 then .error (.validation s!"Page size must be greater than 0, got {pageSize}")
  else if Word.size32 ≤ pageSize then .error (.validation s!"Page size must not exceed {maxPageSize}")
  else if h : page.toNat ≤ maxPage then ofSizes pageSize.toNat page.toNat h
  else .error (.validation s!"Page index {page} is out of range")

/-- The link with a text to search for; blanks at its ends are dropped, and a blank text is no search. -/
def withSearch (link : PageLink) (s : String) : PageLink :=
  { link with search := SearchTerm.ofChars? s.toList }

def withSortOrder (link : PageLink) (order : SortOrder) : PageLink := { link with sortOrder := some order }

/-- The number of items before the page. -/
def offset (link : PageLink) : Nat := link.page * link.pageSize

/-- The greatest number of items on the page. -/
def limit (link : PageLink) : Nat := link.pageSize

/-- The link to the page after this one; the last page number is its own successor. -/
def next (link : PageLink) : PageLink :=
  { link with page := min (link.page + 1) maxPage, page_le := Nat.min_le_right _ _ }

/-! ## JSON -/

def optionalMember (name : String) : Option Json.Value → List (String × Json.Value)
  | some v => [(name, v)]
  | none => []

def json (link : PageLink) : Json.Value :=
  .map ([("pageSize", .integer link.pageSize), ("page", .integer link.page)] ++
    optionalMember "textSearch" (link.search.map fun t => .text t.text) ++
    optionalMember "sortOrder" (link.sortOrder.map SortOrder.json))

/-- The fields of a link before they are checked. -/
structure Params where
  pageSize : Int
  page : Int
  search : Option String
  sortOrder : Option SortOrder

/-- Builds the link, or refuses numbers out of range. -/
def Params.link (p : Params) : Outcome PageLink := do
  let link ← ofRaw p.pageSize p.page
  let link := match p.search with
    | some s => link.withSearch s
    | none => link
  return match p.sortOrder with
    | some order => link.withSortOrder order
    | none => link

/-- What has been read of the fields. -/
structure Fields where
  pageSize : Option Int := none
  page : Option Int := none
  search : Option (Option String) := none
  sortOrder : Option (Option SortOrder) := none

def readSigned : Json.Reader Int := Json.readInteger Word.least64 Word.bound64 "i64"

def Fields.take (f : Fields) : String → Option (Json.Reader Fields)
  | "pageSize" => some (Json.readField "pageSize" f.pageSize readSigned fun v => { f with pageSize := some v })
  | "page" => some (Json.readField "page" f.page readSigned fun v => { f with page := some v })
  | "textSearch" =>
    some (Json.readField "textSearch" f.search (Json.readOptional Json.readString) fun v =>
      { f with search := some v })
  | "sortOrder" =>
    some (Json.readField "sortOrder" f.sortOrder (Json.readOptional SortOrder.read) fun v =>
      { f with sortOrder := some v })
  | _ => none

def Fields.finish (f : Fields) : Except Json.Error Params := do
  return { pageSize := ← Json.required "pageSize" f.pageSize
           page := f.page.getD 0
           search := f.search.getD none
           sortOrder := f.sortOrder.getD none }

def readItems : Json.Items Params := do
  let pageSize ← Json.Items.next 0 "struct PageLinkParams with 4 elements" readSigned
  let page ← Json.Items.nextD readSigned 0
  let search ← Json.Items.nextD (Json.readOptional Json.readString) none
  let sortOrder ← Json.Items.nextD (Json.readOptional SortOrder.read) none
  return { pageSize, page, search, sortOrder }

def readParams : Json.Reader Params :=
  Json.readRecord "struct PageLinkParams" readItems fun members => do
    (← Json.foldMembers Fields.take {} members).finish

/-- Reads a link and checks its numbers. -/
def read : Json.Reader PageLink := fun tree => do
  match (← readParams tree).link with
  | .ok link => .ok link
  | .error e => Json.refuse (.refused e.text)

end PageLink

end ResourceCatalog
