import ResourceCatalog.Database.Schema
import ResourceCatalog.Proofs.Id.Bytes

/-!
# Sort keys

What an `ORDER BY` text says: keys one after the other, each a column, for texts a collation, and a direction.
The text that an ordering sends means that ordering, for every property and direction.
-/

namespace ResourceCatalog.Database

structure SortKey where
  column : List Char
  collation : Option (List Char)
  direction : SortDirection
deriving DecidableEq

namespace SortKey

def direction? (word : List Char) : Option SortDirection :=
  if word = "ASC".toList then some .asc else if word = "DESC".toList then some .desc else none

def ofWords? : List (List Char) → Option SortKey
  | [column, direction] => (direction? direction).map fun d => ⟨column, none, d⟩
  | [column, collate, collation, direction] =>
    if collate = "COLLATE".toList then (direction? direction).map fun d => ⟨column, some collation, d⟩ else none
  | _ => none

def ofText? (text : List Char) : Option SortKey := ofWords? ((text.splitOn ' ').filter (· ≠ []))

/-- The statement that declares the resource types, cut at its quotes: the names in their order, and what is
between them. -/
def declaredTypes : List (List Char) := (resourceTable.script.toList.takeWhile (· ≠ ')')).splitOn '\''

/-- The place of a type in its declaration. -/
def declaredPlace (t : ResourceType) : Nat := declaredTypes.idxOf t.name.toList

/-- How columns compare. Identifiers compare by their bytes, types by their place in the declaration, and texts
by their bytes under the collation `"C"`; how texts compare without a collation depends on the database. -/
def columnOrders : List (String × Option String × (Resource → Resource → Ordering)) :=
  [("id", none, fun a b => Text.byteOrder a.id.uuid.bytes b.id.uuid.bytes),
   ("created_at", none, fun a b => a.createdAt.order b.createdAt),
   ("tenant_id", none, fun a b => Text.byteOrder a.tenantId.uuid.bytes b.tenantId.uuid.bytes),
   ("title", some "\"C\"", fun a b => Text.byteOrder (Text.utf8 a.title.toList) (Text.utf8 b.title.toList)),
   ("resource_type", none, fun a b => compare (declaredPlace a.resourceType) (declaredPlace b.resourceType)),
   ("resource_key", some "\"C\"", fun a b =>
     Text.byteOrder (Text.utf8 a.resourceKey.toList) (Text.utf8 b.resourceKey.toList))]

/-- The order of a column under a collation, if it is known. -/
def columnOrder? (column : List Char) (collation : Option (List Char)) : Option (Resource → Resource → Ordering) :=
  (columnOrders.find? fun entry =>
    entry.1.toList = column ∧ entry.2.1.map String.toList = collation).map fun entry => entry.2.2

/-- Descending keys compare the other way round. -/
def order? (key : SortKey) : Option (Resource → Resource → Ordering) :=
  (columnOrder? key.column key.collation).map fun order =>
    match key.direction with
    | .asc => order
    | .desc => fun a b => order b a

/-- Rows compare by the first key, where it does not tell them apart by the next. -/
def lexicographic : List (Resource → Resource → Ordering) → Resource → Resource → Ordering
  | [], _, _ => .eq
  | order :: orders, a, b => (order a b).then (lexicographic orders a b)

end SortKey

/-- What a text behind `ORDER BY` means, if every key of it is known. -/
def orderOf? (text : List Char) : Option (Resource → Resource → Ordering) :=
  ((text.splitOn ',').mapM SortKey.ofText?).bind fun keys => (keys.mapM SortKey.order?).map SortKey.lexicographic

namespace SortKey

/-! ## Columns -/

theorem declaredTypes_eq : declaredTypes =
    ["CREATE TYPE resource_type AS ENUM (".toList, "LWM2M_MODEL".toList, ", ".toList, "JKS".toList, ", ".toList,
      "PKCS_12".toList, ", ".toList, "JS_MODULE".toList, []] := by
  -- The statement is the first line of the script; the lines behind it are never looked at.
  have hscript : ∃ rest, resourceTable.script.toList =
      "CREATE TYPE resource_type AS ENUM ('LWM2M_MODEL', 'JKS', 'PKCS_12', 'JS_MODULE');\n".toList ++ rest := by
    unfold resourceTable resourceTable.resourceTableScript
    simp only [String.toList_append, List.append_assoc]
    exact ⟨_, rfl⟩
  obtain ⟨rest, hrest⟩ := hscript
  rw [declaredTypes, hrest]
  cbv

/-- Types are declared in their order. -/
theorem compare_declaredPlace (s t : ResourceType) : compare (declaredPlace s) (declaredPlace t) = s.order t := by
  rw [declaredPlace, declaredPlace, declaredTypes_eq]
  cases s <;> cases t <;> rfl

/-- The key by which a statement sorts by a property. -/
def ofProperty (p : ResourceProperty) (d : SortDirection) : SortKey :=
  { column := p.column.toList, direction := d
    collation := match p with
      | .title | .resourceKey => some "\"C\"".toList
      | _ => none }

theorem columnOrder?_ofProperty (p : ResourceProperty) (d : SortDirection) :
    columnOrder? (ofProperty p d).column (ofProperty p d).collation = some p.compare := by
  cases p with
  | createdTime => rfl
  | title => exact congrArg some (funext fun _ => funext fun _ => Text.byteOrder_utf8 _ _)
  | resourceType => exact congrArg some (funext fun _ => funext fun _ => compare_declaredPlace _ _)
  | resourceKey => exact congrArg some (funext fun _ => funext fun _ => Text.byteOrder_utf8 _ _)
  | tenantId => exact congrArg some (funext fun _ => funext fun _ => Id.Uuid.byteOrder_bytes _ _)
  | id => exact congrArg some (funext fun _ => funext fun _ => Id.Uuid.byteOrder_bytes _ _)

theorem order?_ofProperty (p : ResourceProperty) (d : SortDirection) :
    (ofProperty p d).order? = some fun a b => d.apply (p.compare a b) := by
  rw [order?, columnOrder?_ofProperty]
  cases d with
  | asc => rfl
  | desc =>
    have hswap : ∀ a b, p.compare b a = (p.compare a b).swap := fun _ _ => Std.OrientedCmp.eq_swap
    exact congrArg some (funext fun a => funext fun b => hswap a b)

/-! ## Orderings -/

/-- The keys by which a statement sorts. -/
def ofOrdering (o : ResourceOrdering) : List SortKey :=
  match o.property with
  | .id => [ofProperty .id o.direction]
  | p => [ofProperty p o.direction, ofProperty .id .asc]

theorem mapM_ofText?_sql (o : ResourceOrdering) :
    (o.sql.toList.splitOn ',').mapM ofText? = some (ofOrdering o) := by
  obtain ⟨p, d⟩ := o
  cases p <;> cases d <;> decide

/-- Where a comparison of identifiers does not tell them apart, another one does not either. -/
theorem apply_then_idOrder (d : SortDirection) (a b : Resource) :
    (d.apply (a.id.order b.id)).then (a.id.order b.id) = d.apply (a.id.order b.id) := by
  cases d <;> cases a.id.order b.id <;> rfl

theorem lexicographic_ofOrdering (o : ResourceOrdering) :
    ((ofOrdering o).mapM order?).map lexicographic = some o.compare := by
  obtain ⟨p, d⟩ := o
  by_cases hid : p = .id
  · subst hid
    simp only [ofOrdering, List.mapM_cons, List.mapM_nil, order?_ofProperty]
    refine congrArg some (funext fun a => funext fun b => ?_)
    exact Ordering.then_eq.trans (apply_then_idOrder d a b).symm
  · have hkeys : ofOrdering ⟨p, d⟩ = [ofProperty p d, ofProperty .id .asc] := by
      unfold ofOrdering
      split
      · contradiction
      · rfl
    simp only [hkeys, List.mapM_cons, List.mapM_nil, order?_ofProperty]
    refine congrArg some (funext fun a => funext fun b => ?_)
    exact congrArg (Ordering.then _) Ordering.then_eq

end SortKey

/-- The text that an ordering sends means that ordering. -/
theorem orderOf?_sql (o : ResourceOrdering) : orderOf? o.sql.toList = some o.compare := by
  rw [orderOf?, SortKey.mapM_ofText?_sql, Option.bind_some, SortKey.lexicographic_ofOrdering]

end ResourceCatalog.Database
