import ResourceCatalog.Page.Data

/-!
# Walking through pages

Fetching a page, the page after it, and so on while a page says that another one follows.
-/

namespace ResourceCatalog

/-- The items of the pages that a walk has fetched, page by page, and the link of the last one. -/
structure Walk (α : Type) where
  pages : List (List α)
  last : PageLink
deriving DecidableEq, Repr

/-- All items in the order in which they were fetched. -/
def Walk.items {α : Type} (w : Walk α) : List α := w.pages.flatten

variable {m : Type → Type} {α : Type} [Monad m]

/-- Fetches the page of `link` and the pages after it. At the greatest page number the next link is the
link itself, so a page there that says another one follows would be fetched for ever: the answer is
then `none`. -/
def walk (fetch : PageLink → m (PageData α)) (link : PageLink) : m (Option (Walk α)) := do
  let page ← fetch link
  if page.hasNext then
    if _h : link.page < maxPage then
      let rest ← walk fetch link.next
      return rest.map fun w => { w with pages := page.data :: w.pages }
    else return none
  else return some ⟨[page.data], link⟩
termination_by maxPage - link.page
decreasing_by
  simp only [PageLink.next]
  omega

end ResourceCatalog
