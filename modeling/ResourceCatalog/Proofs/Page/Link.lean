import Mathlib.Algebra.Group.Int.Defs
import Mathlib.Algebra.Group.Nat.Defs
import ResourceCatalog.Page.Link
import ResourceCatalog.Proofs.Text.Blank

/-!
Numbers in range make a link, whoever gives them, and a term that was searched for makes the same search again. What a
link asks for ends far below the greatest number of 63 bits.
-/

namespace ResourceCatalog

/-- Nothing can be trimmed off a term that is searched for. -/
theorem SearchTerm.trim_chars (term : SearchTerm) : Text.trim term.chars = term.chars := by
  obtain ⟨s, hs⟩ := term.exists_trim_eq
  rw [← hs, Text.trim_trim]

theorem SearchTerm.ofChars?_chars (term : SearchTerm) : ofChars? term.chars = some term := by
  have hne : Text.trim term.chars ≠ [] := by
    rw [term.trim_chars]
    exact term.ne_nil
  rw [ofChars?, dif_pos hne]
  simp only [term.trim_chars]

theorem PageLink.withSearch_eq (link : PageLink) (term : SearchTerm) :
    link.withSearch term.text = { link with search := some term } := by
  rw [withSearch, SearchTerm.text, String.toList_ofList, term.ofChars?_chars]

theorem PageLink.withSearch_text (link : PageLink) (term : SearchTerm) :
    (link.withSearch term.text).search = some term := by
  rw [link.withSearch_eq term]

theorem PageLink.ofRaw_eq_ok {pageSize page : Int} (hsize : 1 ≤ pageSize ∧ pageSize ≤ 1000)
    (hpage : 0 ≤ page ∧ page < 2 ^ 32) :
    ofRaw pageSize page = .ok { pageSize := pageSize.toNat, page := page.toNat,
                                pageSize_mem := by unfold maxPageSize; omega,
                                page_le := by unfold maxPage; omega } := by
  unfold ofRaw
  rw [if_neg (by omega), if_neg (by omega), if_neg (by unfold Word.size32; omega),
    dif_pos (by unfold maxPage; omega), ofSizes, dif_neg (by omega), dif_neg (by unfold maxPageSize; omega)]

/-- Pages are small and page numbers have 32 bits. -/
theorem PageLink.offset_add_limit_lt (link : PageLink) : link.offset + link.limit < 2 ^ 63 := by
  have hsize : link.pageSize ≤ 1000 := link.pageSize_mem.2
  have hpage : link.page ≤ 0xFFFFFFFF := link.page_le
  have hmul : link.page * link.pageSize ≤ 0xFFFFFFFF * 1000 := Nat.mul_le_mul hpage hsize
  show link.page * link.pageSize + link.pageSize < 2 ^ 63
  omega

end ResourceCatalog
