import ResourceCatalog.Proofs.Id.Layout
import ResourceCatalog.Proofs.Resource.Json
import ResourceCatalog.Proofs.Text.Blank
import ResourceCatalog.Proofs.Text.Recasing

/-!
# Reading and writing identifiers

Both types of identifier are read from every spelling of their UUID, with any blanks around it, and from nothing
else. They are written in one of the spellings, which reads back, and so does their JSON.
-/

namespace ResourceCatalog

namespace Id

/-! ## Spellings have no blanks -/

theorem mem_hyphenated {digits : List Char} {c : Char} (h : c ∈ hyphenated digits) : c = '-' ∨ c ∈ digits := by
  have hgroup : ∀ n m, c ∈ (digits.drop n).take m → c ∈ digits := fun n m hc =>
    List.mem_of_mem_drop (List.mem_of_mem_take hc)
  simp only [hyphenated, List.mem_append, List.mem_cons] at h
  rcases h with h | h | h | h | h | h | h | h | h
  · exact .inr (List.mem_of_mem_take h)
  · exact .inl h
  · exact .inr (hgroup 8 4 h)
  · exact .inl h
  · exact .inr (hgroup 12 4 h)
  · exact .inl h
  · exact .inr (hgroup 16 4 h)
  · exact .inl h
  · exact .inr (List.mem_of_mem_drop h)

theorem isBlank_of_toLower_mem {l : List Char} (hl : l.any Text.isBlank = false) {c : Char}
    (h : c.toLower ∈ l) : Text.isBlank c = false := by
  rw [← Text.isBlank_toLower, ← Bool.not_eq_true]
  exact List.any_eq_false.1 hl c.toLower h

theorem IsHexDigit.isBlank_eq_false {c : Char} (h : IsHexDigit c) : Text.isBlank c = false :=
  isBlank_of_toLower_mem (by decide) h

theorem Grouped.isBlank_eq_false {digits s : List Char} (h : Grouped digits s)
    (hdigits : ∀ c ∈ digits, IsHexDigit c) : ∀ c ∈ s, Text.isBlank c = false := by
  obtain ⟨-, rfl⟩ := grouped_iff.1 h
  intro c hc
  rcases mem_hyphenated hc with rfl | hc
  · decide
  · exact (hdigits c hc).isBlank_eq_false

theorem Spelling.isBlank_eq_false {digits s : List Char} (h : Spelling digits s) : ∀ c ∈ s, Text.isBlank c = false := by
  obtain ⟨hlaid, -, hdigits⟩ := h
  cases hlaid with
  | bare => exact fun c hc => (hdigits c hc).isBlank_eq_false
  | grouped h => exact h.isBlank_eq_false hdigits
  | @braced s h =>
    intro c hc
    rw [List.mem_cons, List.mem_append, List.mem_singleton] at hc
    rcases hc with rfl | hc | rfl
    · decide
    · exact h.isBlank_eq_false hdigits c hc
    · decide
  | @urn mark s hmark h =>
    intro c hc
    rcases List.mem_append.1 hc with hc | hc
    · exact isBlank_of_toLower_mem (by decide) (hmark ▸ List.mem_map_of_mem hc)
    · exact h.isBlank_eq_false hdigits c hc

/-- The text of a UUID is laid out in groups, with the digits of every spelling in lower case. -/
theorem Uuid.Spells.grouped_text {u : Uuid} {digits s : List Char} (h : u.Spells digits s) :
    Grouped (digits.map Char.toLower) u.text.toList := by
  have hdigits : Text.hexDigits 32 u.value = digits.map Char.toLower := by
    rw [h.value_eq, ← h.length_eq]
    exact hexDigits_spelledValue h.isHexDigit
  rw [Uuid.text, String.toList_ofList, Uuid.chars, hdigits, grouped_iff]
  exact ⟨by rw [List.length_map, h.length_eq], rfl⟩

theorem Uuid.exists_spells_text (u : Uuid) : ∃ digits, u.Spells digits u.text.toList := by
  rw [Uuid.text, String.toList_ofList]
  exact Uuid.parse_eq_ok_iff.1 u.parse_chars

/-! ## Identifiers -/

theorem parseTrimmed_eq_ok_iff {type s : String} {u : Uuid} :
    parseTrimmed type s = .ok u ↔ ∃ digits, u.Spells digits (Text.trim s.toList) := by
  rw [← Uuid.parse_eq_ok_iff, parseTrimmed]
  cases Uuid.parse (Text.trim s.toList) with
  | ok v => rw [Except.ok.injEq, Except.ok.injEq]
  | error e => exact ⟨nofun, nofun⟩

theorem parseTrimmed_text (type : String) (u : Uuid) : parseTrimmed type u.text = .ok u := by
  obtain ⟨digits, hspells⟩ := u.exists_spells_text
  have htrim : Text.trim ([] ++ (u.text.toList ++ [])) = u.text.toList :=
    Text.trim_append nofun hspells.isBlank_eq_false nofun
  rw [List.nil_append, List.append_nil] at htrim
  exact parseTrimmed_eq_ok_iff.2 ⟨digits, htrim.symm ▸ hspells⟩

theorem kind_of_parseTrimmed_eq_error {type s : String} {e : Failure} (h : parseTrimmed type s = .error e) :
    e.kind = .validation := by
  rw [parseTrimmed] at h
  split at h <;> cases h
  rfl

/-- A type of identifiers is read and written by the spellings of UUIDs. -/
structure ReadBySpelling {α : Type} (uuid : α → Uuid) (parse : String → Outcome α) (text : α → String)
    (json : α → Json.Value) (read : Json.Reader α) : Prop where
  /-- A text is accepted just if it is a spelling between blanks. -/
  accepts_iff : ∀ s, (∃ a, parse s = .ok a) ↔ ∃ digits, Spelling digits (Text.trim s.toList)
  /-- An accepted text is read as what its digits spell. -/
  parse_eq_ok_iff : ∀ s a, parse s = .ok a ↔ ∃ digits, (uuid a).Spells digits (Text.trim s.toList)
  /-- Any other text is refused as invalid. -/
  refuses : ∀ s, (¬ ∃ a, parse s = .ok a) → ∃ e, parse s = .error e ∧ e.kind = .validation
  /-- Every spelling is read back, whatever blanks are around it. -/
  parse_spelling : ∀ a digits s before after, (uuid a).Spells digits s → (∀ c ∈ before, Text.isBlank c = true) →
    (∀ c ∈ after, Text.isBlank c = true) → parse (String.ofList (before ++ (s ++ after))) = .ok a
  /-- The text that is written has the digits of every spelling, in lower case and in groups. -/
  grouped_text : ∀ a digits s, (uuid a).Spells digits s → Grouped (digits.map Char.toLower) (text a).toList
  text_spells : ∀ a, ∃ digits, (uuid a).Spells digits (text a).toList
  decode_json : ∀ a, Json.decode read (json a).compact = .ok a ∧ Json.decode read (json a).pretty = .ok a

theorem readBySpelling_of_parseTrimmed {α : Type} {uuid : α → Uuid} {wrap : Uuid → α} {parse : String → Outcome α}
    {text : α → String} {json : α → Json.Value} {read : Json.Reader α} (type : String)
    (hwrap : ∀ u, uuid (wrap u) = u) (huuid : ∀ a, wrap (uuid a) = a)
    (hparse : ∀ s, parse s = (parseTrimmed type s).map wrap) (htext : ∀ a, text a = (uuid a).text)
    (hjson : Json.Recovers read json) : ReadBySpelling uuid parse text json read := by
  have hok : ∀ s a, parse s = .ok a ↔ ∃ digits, (uuid a).Spells digits (Text.trim s.toList) := by
    intro s a
    rw [hparse, ← @parseTrimmed_eq_ok_iff type]
    cases parseTrimmed type s with
    | ok u =>
      show Except.ok (wrap u) = Except.ok a ↔ _
      rw [Except.ok.injEq, Except.ok.injEq]
      exact ⟨fun h => h ▸ (hwrap u).symm, fun h => h ▸ huuid a⟩
    | error e => exact ⟨nofun, nofun⟩
  refine ⟨?_, hok, ?_, ?_, ?_, ?_, ?_⟩
  · intro s
    constructor
    · rintro ⟨a, ha⟩
      obtain ⟨digits, hs⟩ := (hok s a).1 ha
      exact ⟨digits, hs.toSpelling⟩
    · rintro ⟨digits, hs⟩
      obtain ⟨u, hu⟩ := hs.exists_spells
      exact ⟨wrap u, (hok s (wrap u)).2 ⟨digits, (hwrap u).symm ▸ hu⟩⟩
  · intro s hnone
    rw [hparse] at hnone ⊢
    cases h : parseTrimmed type s with
    | ok u => exact absurd ⟨wrap u, congrArg (Except.map wrap) h⟩ hnone
    | error e => exact ⟨e, rfl, kind_of_parseTrimmed_eq_error h⟩
  · intro a digits s before after hs hbefore hafter
    rw [hok, String.toList_ofList, Text.trim_append hbefore hs.isBlank_eq_false hafter]
    exact ⟨digits, hs⟩
  · intro a digits s hs
    rw [htext]
    exact hs.grouped_text
  · intro a
    rw [htext]
    exact (uuid a).exists_spells_text
  · intro a
    exact ⟨hjson.decode_compact a, hjson.decode_pretty a⟩

/-- Identifiers of both types are read from a text just if it is one of the four spellings of a UUID between blanks,
and else refused as invalid. Every spelling of an identifier, with any blanks around it, is read as that identifier,
which is written in groups of the same digits in lower case and recovered from its JSON text. -/
theorem identifiers_read_by_spelling :
    ReadBySpelling TenantId.uuid TenantId.parse TenantId.text TenantId.json TenantId.read ∧
      ReadBySpelling ResourceId.uuid ResourceId.parse ResourceId.text ResourceId.json ResourceId.read := by
  constructor
  · exact readBySpelling_of_parseTrimmed "TenantId" (fun _ => rfl) (fun _ => rfl) (fun _ => rfl) (fun _ => rfl)
      TenantId.recovers
  · exact readBySpelling_of_parseTrimmed "ResourceId" (fun _ => rfl) (fun _ => rfl) (fun _ => rfl) (fun _ => rfl)
      ResourceId.recovers

example : TenantId.parse "\u3000URN:uuid:0000000a-0000-0000-0000-0000000000fF\n" =
    .ok ⟨⟨⟨0xA0000000000000000000000FF, by decide⟩⟩⟩ := by decide +kernel

end Id

end ResourceCatalog
