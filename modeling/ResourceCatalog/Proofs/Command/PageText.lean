import ResourceCatalog.Command.Output
import ResourceCatalog.Proofs.Page.Json
import ResourceCatalog.Proofs.Resource.Json
import ResourceCatalog.Proofs.Store.Listing

/-!
# Pages through their texts

The page that a store answers, written as JSON and read again, has the same rows at the times that the text shows: the
checks of pages read from JSON refuse no page that a store answers. It is the same page unless one of its rows was made
in a leap second before the end of a minute.
-/

namespace ResourceCatalog

/-- What is read from a text that a page of resources was written to. -/
def PageData.ofText (text : String) : Except Json.Error (PageData Resource) :=
  Json.decode (PageData.read Resource.read) text

/-- The page passes the checks of pages read from JSON, and each of its texts, the compact one, the pretty one and what
the command line prints, is read as the page with its rows as the texts show them. That is the page itself just if none
of its rows was made in a leap second before the end of a minute. -/
structure PageData.SurvivesText (p : PageData Resource) : Prop where
  checked : p.checked = .ok p
  compact : ofText (p.json Resource.json).compact = .ok (p.map Resource.shown)
  pretty : ofText (p.json Resource.json).pretty = .ok (p.map Resource.shown)
  printed : ofText ((Command.Result.page p).printed .json) = .ok (p.map Resource.shown)
  map_shown_eq_iff : p.map Resource.shown = p ↔ ∀ r ∈ p.data, r.createdAt.LeapEndsMinute

theorem PageData.map_shown_eq_iff (p : PageData Resource) :
    p.map Resource.shown = p ↔ ∀ r ∈ p.data, r.createdAt.LeapEndsMinute := by
  have hdata : p.map Resource.shown = p ↔ p.data.map Resource.shown = p.data.map id := by
    rw [List.map_id]
    exact ⟨congrArg data, fun h => congrArg (fun data => { p with data }) h⟩
  rw [hdata, List.map_inj_left]
  exact forall₂_congr fun r _ => Resource.shown_eq_self_iff

theorem PageData.IsSlice.survivesText {link : PageLink} {l : List Resource} {p : PageData Resource}
    (h : p.IsSlice link l) (htotal : p.totalElements < Word.size64) : p.SurvivesText := by
  have hwhole := isWhole_json Resource.readsBack p
  have hchecked := h.isPage.checked_eq_ok
  have htree := read_tree Resource.readsBack hchecked htotal
  exact {
    checked := hchecked
    compact := (Json.decode_compact _ hwhole).trans htree
    pretty := (Json.decode_pretty _ hwhole).trans htree
    printed := (Json.decode_pretty_newline _ hwhole).trans htree
    map_shown_eq_iff := p.map_shown_eq_iff }

theorem PageData.map_map_of_inverse {α β : Type} {f : α → β} {g : β → α} (h : ∀ a, g (f a) = a)
    (p : PageData α) : (p.map f).map g = p := by
  have hdata : (p.data.map f).map g = p.data := by
    rw [List.map_map, show g ∘ f = id from funext h, List.map_id]
  show { p with data := (p.data.map f).map g } = p
  rw [hdata]

namespace Store

variable {s : Store} {scope : ListScope} {tenant : TenantId} {link : PageLink} {p : PageData Resource}

/-- Every page that a store answers survives its texts, also when its items have been mapped to others and
back. The total, the length of a list in memory, is a word of 64 bits. -/
theorem list_survives_text (h : s.list scope tenant link = .ok p) (htotal : p.totalElements < Word.size64) :
    p.SurvivesText ∧ ∀ (β : Type) (f : Resource → β) (g : β → Resource), (∀ r, g (f r) = r) →
      (p.map f).map g = p ∧ ((p.map f).map g).SurvivesText := by
  obtain ⟨l, hslice⟩ := exists_isSlice_of_list h
  have hsurvives := hslice.survivesText htotal
  refine ⟨hsurvives, fun β f g hinverse => ?_⟩
  have hsame := p.map_map_of_inverse hinverse
  exact ⟨hsame, hsame.symm ▸ hsurvives⟩

def samplePage : PageData Resource := sample.listed ⟨.title, .desc⟩ .visible ⟨⟨7⟩⟩ sampleLink

/-- The second page of two rows, which holds the last of three, also when titles are put beside its rows and
taken away again. -/
theorem list_survives_text_sample :
    sample.list .visible ⟨⟨7⟩⟩ sampleLink = .ok samplePage ∧ samplePage.totalElements < Word.size64 ∧
    samplePage.SurvivesText ∧ ((samplePage.map fun r => (r.title, r)).map Prod.snd).SurvivesText := by
  have hlist : sample.list .visible ⟨⟨7⟩⟩ sampleLink = .ok samplePage := list_eq_listed (by decide) (by rfl)
  have htotal : samplePage.totalElements < Word.size64 := by
    have hthree : (selected sample.rows .visible ⟨⟨7⟩⟩ sampleLink).length = 3 := by decide
    show (List.mergeSort _ _).length < Word.size64
    rw [List.length_mergeSort, hthree]
    decide
  obtain ⟨hsurvives, hmapped⟩ := list_survives_text hlist htotal
  exact ⟨hlist, htotal, hsurvives, (hmapped _ (fun r => (r.title, r)) Prod.snd fun _ => rfl).2⟩

def leapStore : Store := empty.run [.save Resource.madeInLeapSecond]

def leapLink : PageLink := { sampleLink with page := 0, sortOrder := none, page_le := Nat.zero_le maxPage }

def leapPage : PageData Resource := ⟨[Resource.madeInLeapSecond], 1, 1, false⟩

/-- The only page of a store whose only row was made in a leap second before the end of a minute. -/
theorem leap_second_lost_in_page :
    leapStore.list .own ⟨⟨7⟩⟩ leapLink = .ok leapPage ∧
      PageData.ofText (leapPage.json Resource.json).compact ≠ .ok leapPage := by
  have hselected : selected leapStore.rows .own ⟨⟨7⟩⟩ leapLink = [Resource.madeInLeapSecond] := by decide
  constructor
  · have horder : ResourceOrdering.ofLink leapLink = .ok .creation := rfl
    rw [list_eq_listed (by decide) horder, listed, ResourceOrdering.sort, hselected, List.mergeSort_singleton]
    rfl
  · rw [PageData.ofText, PageData.decode_json Resource.readsBack rfl (by decide)]
    intro h
    have hends := leapPage.map_shown_eq_iff.1 (Except.ok.inj h) _ List.mem_cons_self
    exact absurd hends (by decide)

end Store

end ResourceCatalog
