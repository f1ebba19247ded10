import Mathlib.Data.List.Perm.Subperm
import ResourceCatalog.Command.Execute
import ResourceCatalog.Proofs.Page.Link
import ResourceCatalog.Proofs.Page.Walk
import ResourceCatalog.Proofs.Store.Listing

/-!
# Listing all pages

Asking the store in memory leaves it as it is, so a walk through the pages of a list is a walk at one
state, and its pages are slices of one list.
-/

namespace ResourceCatalog

/-! ## Asking a store -/

namespace Store

variable {α β : Type} {s : Store}

theorem run_bind_of_reads {x : ExceptT Failure (StateM Store) α} {g : α → ExceptT Failure (StateM Store) β}
    {o : Outcome α} {k : α → Outcome β} (hx : x.run.run s = (o, s)) (hg : ∀ a, (g a).run.run s = (k a, s)) :
    (x >>= g).run.run s = (o >>= k, s) := by
  rw [ExceptT.run_bind, StateT.run_bind, hx]
  cases o with
  | ok a => exact hg a
  | error e => rfl

-- Both walks are the same recursion, so the induction is that of the walk.
theorem run_walk_ask (f : PageLink → Store → Outcome (PageData α)) (s : Store) (link : PageLink) :
    (walk (fun k => ask (f k)) link).run.run s = (walk (fun k => f k s) link, s) := by
  induction link using walk.induct with
  | case1 link ih =>
    rw [walk]
    conv_rhs => rw [walk]
    refine run_bind_of_reads rfl fun page => ?_
    by_cases hnext : page.hasNext = true
    · by_cases hpage : link.page < maxPage
      · rw [if_pos hnext, if_pos hnext, dif_pos hpage, dif_pos hpage]
        exact run_bind_of_reads (ih hpage) fun rest => rfl
      · rw [if_pos hnext, if_pos hnext, dif_neg hpage, dif_neg hpage]
        rfl
    · rw [if_neg hnext, if_neg hnext]
      rfl

end Store

/-! ## Arguments -/

namespace Command

/-- Numbers in range make a link, whatever the other arguments are. -/
theorem ListArgs.link_eq_ok {a : ListArgs} (hsize : 1 ≤ a.pageSize ∧ a.pageSize ≤ 1000)
    (hpage : 0 ≤ a.page ∧ a.page < 2 ^ 32) :
    ∃ link, a.link = .ok link ∧ link.pageSize = a.pageSize.toNat ∧ link.page = a.page.toNat ∧
      link.search = a.search.bind (fun s => SearchTerm.ofChars? s.toList) ∧
      link.sortOrder = a.sort.map fun property => ⟨property, if a.desc then .desc else .asc⟩ := by
  unfold link
  rw [PageLink.ofRaw_eq_ok hsize hpage]
  cases a.search <;> cases a.sort <;> exact ⟨_, rfl, rfl, rfl, rfl, rfl⟩

theorem ListArgs.exists_ordering {a : ListArgs} {link : PageLink}
    (hsort : ∀ name, a.sort = some name → ∃ p, ResourceProperty.parse name = .ok p)
    (hlink : link.sortOrder = a.sort.map fun property => ⟨property, if a.desc then .desc else .asc⟩) :
    ∃ o, ResourceOrdering.ofLink link = .ok o := by
  unfold ResourceOrdering.ofLink
  rw [hlink]
  cases ha : a.sort with
  | none => exact ⟨_, rfl⟩
  | some name =>
    obtain ⟨p, hp⟩ := hsort name ha
    refine ⟨⟨p, if a.desc then .desc else .asc⟩, ?_⟩
    show (ResourceProperty.parse name).map _ = _
    rw [hp]
    rfl

/-! ## The whole list -/

variable {s : Store} {a : ListArgs} {link : PageLink} {o : ResourceOrdering} {l : List Resource}

theorem listAll_eq_drop (hs : s.rows.Consistent) (ha : s.available = true) (hrows : s.rows.size ≤ 2 ^ 32)
    (ho : ResourceOrdering.ofLink link = .ok o)
    (hl : o.Arranges (s.rows.wanted a.scope a.tenant link.search) l) :
    (listAll Store.catalog a link).run.run s = (.ok (l.drop link.offset), s) := by
  -- The list has no more items than there are rows, and a page has at least one of them.
  have hlength : l.length ≤ 2 ^ 32 := by
    have hsub : l ⊆ s.rows.toList := fun r hr => ((hl.mem_iff r).1 hr).1
    have hle := (hl.nodup.subperm hsub).length_le
    rw [← Rows.size_eq_length_toList] at hle
    omega
  have hend : l.length ≤ 2 ^ 32 * link.pageSize := by
    have hpos : 1 ≤ link.pageSize := link.pageSize_mem.1
    omega
  obtain ⟨w, hw, hitems⟩ := (Store.serves_of_arranges hs hl).walked link rfl ho ha hend
  have hwalk : (walk (listPage Store.catalog a) link).run.run s = (.ok (some w), s) := by
    rw [← hw]
    exact Store.run_walk_ask (fun k s => s.list a.scope a.tenant k) s link
  rw [listAll, ExceptT.run_bind, StateT.run_bind, hwalk, ← hitems]
  rfl

/-- Titles with an `o` that tenant 7 sees, one by one from the second on. -/
def sampleArgs : ListArgs :=
  { tenant := ⟨⟨7⟩⟩, pageSize := 1, page := 1, search := some " O ", sort := some "title", allPages := true }

end Command

end ResourceCatalog
