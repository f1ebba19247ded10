import ResourceCatalog.Proofs.Database.SortKey
import ResourceCatalog.Proofs.Time.Order

/-!
# Sort texts

A database that sorts by the keys of an ordering's text puts any two rows in the order in which the ordering itself
puts them, although it compares what it stores: bytes, places in a declaration, and instants.
-/

namespace ResourceCatalog.Database

/-- The column of creation compares by time. -/
theorem SortKey.columnOrder?_createdTime : columnOrder? "created_at".toList none =
    some fun a b => compare a.createdAt.ticks b.createdAt.ticks :=
  congrArg some (funext fun a => funext fun b => Time.Timestamp.order_eq_compare_ticks a.createdAt b.createdAt)

/-- The text of an ordering can be read as a list of keys, and any two rows compare by these keys, one after the
other, as they compare by the ordering. The time of creation is compared as an instant. -/
theorem sort_text_orders_rows (o : ResourceOrdering) :
    (∃ keys orders, (o.sql.toList.splitOn ',').mapM SortKey.ofText? = some keys ∧
      keys.mapM SortKey.order? = some orders ∧
      ∀ a b, SortKey.lexicographic orders a b = o.compare a b) ∧
    SortKey.columnOrder? "created_at".toList none =
      some fun a b => compare a.createdAt.ticks b.createdAt.ticks := by
  refine ⟨?_, SortKey.columnOrder?_createdTime⟩
  obtain ⟨orders, horders, hcompare⟩ := Option.map_eq_some_iff.1 (SortKey.lexicographic_ofOrdering o)
  exact ⟨_, orders, SortKey.mapM_ofText?_sql o, horders, fun a b => congrFun (congrFun hcompare a) b⟩

end ResourceCatalog.Database
