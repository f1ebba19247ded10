import ResourceCatalog.Proofs.Page.Link
import ResourceCatalog.Proofs.Store.Listing
import ResourceCatalog.Proofs.Text.Lowercase

/-!
# Searching for a piece of a title

A list that is searched for a piece of a row's title has the row, unless the piece has a capital sigma that
ends a word in one of piece and title and not in the other: alone, the piece is then spelled differently.
-/

namespace ResourceCatalog

namespace Resource

variable {r : Resource} {before piece after : List Char}

theorem titleMatches_iff {term : List Char} :
    r.titleMatches term = true ↔ Text.lowercase term <:+: Text.lowercase r.title.toList := Text.hasInfix_iff

theorem titleMatches_of_sigmasAgree (htitle : r.title.toList = before ++ (piece ++ after))
    (h : Text.SigmasAgree before piece after) : r.titleMatches piece = true := by
  rw [titleMatches_iff, htitle]
  exact Text.isInfix_lowercase h

end Resource

namespace Store

/-- A row that a query shows is in the list that is searched for a term if its title matches the term. -/
theorem exists_serves_mem {s : Store} {scope : ListScope} {tenant : TenantId} {term : SearchTerm} {r : Resource}
    (hs : s.rows.Consistent) (hr : r ∈ s.rows.toList) (hshows : s.rows.Shows tenant scope r)
    (hmatches : r.titleMatches term.chars = true) (o : ResourceOrdering) :
    ∃ l, s.Serves scope tenant (some term) o l ∧ r ∈ l := by
  have hmem : ∀ x ∈ s.rows.wanted scope tenant (some term), x ∈ s.rows.toList := fun x hx => hx.1
  obtain ⟨l, hl⟩ := hs.exists_arranges o hmem
  refine ⟨l, serves_of_arranges hs hl, (hl.mem_iff r).2 ⟨hr, hshows, ?_⟩⟩
  rintro _ ⟨⟩
  exact hmatches

/-- A title has a piece of it, which is searched for as it is, at the piece's place in lower case just if every
capital sigma of the piece has the form there that it has in the piece alone. Then the title matches the piece,
and every list that shows the row and is searched for the piece has it. -/
theorem search_finds_piece {r : Resource} {term : SearchTerm} {before after : List Char}
    (htitle : r.title.toList = before ++ (term.chars ++ after)) :
    (∀ link : PageLink, (link.withSearch term.text).search = some term) ∧
    (Text.lowercase term.chars <+: (Text.lowercase r.title.toList).drop (Text.lowercase before).length ↔
      Text.SigmasAgree before term.chars after) ∧
    (Text.SigmasAgree before term.chars after →
      r.titleMatches term.chars = true ∧
      ∀ s : Store, s.Reachable → r ∈ s.rows.toList → ∀ scope tenant, s.rows.Shows tenant scope r →
        ∀ o, ∃ l, s.Serves scope tenant (some term) o l ∧ r ∈ l) := by
  refine ⟨fun link => link.withSearch_text term, ?_, fun hsigmas => ?_⟩
  · rw [htitle]
    exact Text.isPrefix_drop_lowercase_iff
  · have hmatches := Resource.titleMatches_of_sigmasAgree htitle hsigmas
    exact ⟨hmatches, fun s hs hr scope tenant hshows o => exists_serves_mem hs.consistent hr hshows hmatches o⟩

def sampleTerm : SearchTerm := ⟨"ΟΔΟΣ".toList, ⟨"ΟΔΟΣ".toList, by decide⟩, by decide⟩

/-- A whole word with a sigma at its end. -/
theorem search_finds_piece_sample :
    (sampleRow 5 7 "Η ΟΔΟΣ 5" "p").title.toList = "Η ".toList ++ (sampleTerm.chars ++ " 5".toList) ∧
    Text.SigmasAgree "Η ".toList sampleTerm.chars " 5".toList ∧
    (sampleRow 5 7 "Η ΟΔΟΣ 5" "p").titleMatches sampleTerm.chars = true ∧
    ∃ s : Store, s.Reachable ∧ sampleRow 5 7 "Η ΟΔΟΣ 5" "p" ∈ s.rows.toList ∧
      ∃ l, s.Serves .own ⟨⟨7⟩⟩ (some sampleTerm) .creation l ∧ sampleRow 5 7 "Η ΟΔΟΣ 5" "p" ∈ l := by
  have htitle : (sampleRow 5 7 "Η ΟΔΟΣ 5" "p").title.toList =
      "Η ".toList ++ (sampleTerm.chars ++ " 5".toList) := by decide
  have hsigmas : Text.SigmasAgree "Η ".toList sampleTerm.chars " 5".toList := by decide +kernel
  obtain ⟨hmatches, hlisted⟩ := (search_finds_piece htitle).2.2 hsigmas
  let s := empty.run [.save (sampleRow 5 7 "Η ΟΔΟΣ 5" "p")]
  have hreach : s.Reachable := ⟨_, rfl⟩
  have hmem : sampleRow 5 7 "Η ΟΔΟΣ 5" "p" ∈ s.rows.toList := by decide
  exact ⟨htitle, hsigmas, hmatches, s, hreach, hmem, hlisted s hreach hmem .own ⟨⟨7⟩⟩ (.own rfl) .creation⟩

def sampleStem : SearchTerm := ⟨"ΑΣ".toList, ⟨"ΑΣ".toList, by decide⟩, by decide⟩

/-- The first two letters of a title that it does not match: alone, their sigma ends a word. -/
theorem search_misses_piece :
    (sampleRow 1 7 "ΑΣΑ" "k").title.toList = [] ++ (sampleStem.chars ++ ['Α']) ∧
      (sampleRow 1 7 "ΑΣΑ" "k").titleMatches sampleStem.chars = false :=
  ⟨by decide, by decide +kernel⟩

end Store

end ResourceCatalog
