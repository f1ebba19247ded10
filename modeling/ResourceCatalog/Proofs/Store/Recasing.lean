import ResourceCatalog.Proofs.Page.Link
import ResourceCatalog.Proofs.Store.Listing
import ResourceCatalog.Proofs.Text.Recasing

/-!
# Searches and letter case

Whether a title matches a term does not depend on the case of the ASCII letters of either, so a list that is searched
stays the same in all its pages and totals when such letters of the search text change case.
-/

namespace ResourceCatalog

theorem Resource.titleMatches_of_recased {r r' : Resource} {term term' : List Char}
    (htitle : Text.Recased r.title.toList r'.title.toList) (hterm : Text.Recased term term') :
    r.titleMatches term = r'.titleMatches term' := by
  rw [titleMatches, titleMatches, hterm.lowercase_eq, htitle.lowercase_eq]

namespace Store

theorem matchesSearch_withSearch (link : PageLink) (text : String) (r : Resource) :
    matchesSearch (link.withSearch text) r =
      if Text.trim text.toList = [] then true else r.titleMatches (Text.trim text.toList) := by
  rw [PageLink.withSearch, matchesSearch, SearchTerm.ofChars?]
  by_cases h : Text.trim text.toList = []
  · rw [dif_neg (not_not.2 h), if_pos h]
  · rw [dif_pos h, if_neg h]

theorem matchesSearch_of_recased {text text' : String} (h : Text.Recased text.toList text'.toList)
    (link : PageLink) (r : Resource) :
    matchesSearch (link.withSearch text) r = matchesSearch (link.withSearch text') r := by
  have htrim := h.trim_recased
  have htitle : Text.Recased r.title.toList r.title.toList := rfl
  rw [matchesSearch_withSearch, matchesSearch_withSearch, Resource.titleMatches_of_recased htitle htrim]
  simp only [htrim.eq_nil_iff]

theorem list_of_recased {text text' : String} (h : Text.Recased text.toList text'.toList) (s : Store)
    (scope : ListScope) (tenant : TenantId) (link : PageLink) :
    s.list scope tenant (link.withSearch text) = s.list scope tenant (link.withSearch text') := by
  have hselected : selected s.rows scope tenant (link.withSearch text) =
      selected s.rows scope tenant (link.withSearch text') := by
    apply List.filter_congr
    intro r _
    rw [matchesSearch_of_recased h link r]
  rw [list, list, hselected]
  rfl

/-- Neither the case of ASCII letters in a title nor that in a term decides whether they match. So every list query
that is searched for a text answers as it does for the text in another case, and a link that has a search answers as
the same link does with the term in another case. -/
theorem search_ignores_letter_case {title title' text text' : String}
    (htitle : Text.Recased title.toList title'.toList) (htext : Text.Recased text.toList text'.toList) :
    (∀ r : Resource, { r with title }.titleMatches text.toList = { r with title := title' }.titleMatches text'.toList) ∧
    (∀ (s : Store) scope tenant (link : PageLink),
      s.list scope tenant (link.withSearch text) = s.list scope tenant (link.withSearch text')) ∧
    ∀ (s : Store) scope tenant (link : PageLink) (term : SearchTerm), link.search = some term → term.text = text →
      s.list scope tenant link = s.list scope tenant (link.withSearch text') := by
  refine ⟨?_, ?_, ?_⟩
  · intro r
    exact Resource.titleMatches_of_recased htitle htext
  · intro s scope tenant link
    exact list_of_recased htext s scope tenant link
  · rintro s scope tenant link term hsearch rfl
    have hlink : link.withSearch term.text = link := by
      rw [link.withSearch_eq term, ← hsearch]
    rw [← list_of_recased htext s scope tenant link, hlink]

/-- A term that ends with a sigma behind an ASCII letter, which makes that sigma the last of its word. -/
theorem search_ignores_letter_case_sample :
    Text.Recased "Room AΣ".toList "rOOM aΣ".toList ∧ Text.Recased "M AΣ".toList "m aΣ".toList ∧
    (sampleRow 5 7 "Room AΣ" "p").titleMatches "M AΣ".toList = true ∧
    (sampleRow 5 7 "rOOM aΣ" "p").titleMatches "m aΣ".toList = true ∧
    sample.list .visible ⟨⟨7⟩⟩ (sampleLink.withSearch "M AΣ") =
      sample.list .visible ⟨⟨7⟩⟩ (sampleLink.withSearch "m aΣ") := by
  have htitle : Text.Recased "Room AΣ".toList "rOOM aΣ".toList := by decide
  have htext : Text.Recased "M AΣ".toList "m aΣ".toList := by decide
  have hmatches : (sampleRow 5 7 "Room AΣ" "p").titleMatches "M AΣ".toList = true := by decide +kernel
  obtain ⟨htitles, hlists, -⟩ := search_ignores_letter_case htitle htext
  exact ⟨htitle, htext, hmatches, (htitles (sampleRow 5 7 "" "p")).symm.trans hmatches, hlists _ _ _ _⟩

end Store

end ResourceCatalog
