import ResourceCatalog.Proofs.Json.Reader
import ResourceCatalog.Proofs.Page.Link

/-!
# Reading back page links

A link read from JSON is built anew: its numbers are checked, and its term is trimmed once more. A link that exists
passes the checks and its term has nothing to trim, so it is read back from what is written of it.
-/

namespace ResourceCatalog

open Json (Recovers foldMembers foldMembers_field readField readOptional memberTrees)

theorem SortDirection.recovers : Recovers SortDirection.read SortDirection.json := by
  apply Recovers.choice
  intro d
  cases d <;> rfl

theorem SortOrder.recovers : Recovers SortOrder.read SortOrder.json := by
  refine ⟨fun _ => rfl, fun o => ?_⟩
  have hfold : foldMembers Fields.take {} (memberTrees [("property", .text o.property),
      ("direction", o.direction.json)]) = .ok ⟨some o.property, some o.direction⟩ := by
    refine Eq.trans (foldMembers_field rfl (Recovers.string.read_tree o.property)) ?_
    refine Eq.trans (foldMembers_field rfl (SortDirection.recovers.read_tree o.direction)) ?_
    rfl
  show (foldMembers Fields.take {} _ >>= Fields.finish) = _
  rw [hfold]
  rfl

/-! ## Links -/

namespace PageLink

/-- What is written of a link, member by member. -/
def members (link : PageLink) : List (String × Json.Value) :=
  ("pageSize", .integer link.pageSize) :: ("page", .integer link.page) ::
    (optionalMember "textSearch" ((link.search.map SearchTerm.text).map .text) ++
      (optionalMember "sortOrder" (link.sortOrder.map SortOrder.json) ++ []))

/-- The fields that are read of a link, before they are checked. -/
def params (link : PageLink) : Params :=
  ⟨link.pageSize, link.page, link.search.map SearchTerm.text, link.sortOrder⟩

theorem json_eq (link : PageLink) : link.json = .map link.members := by
  rw [json, members, Option.map_map, List.append_nil, List.append_assoc]
  rfl

theorem readSigned_ofInt {n : Nat} (h : n < 0x8000000000000000) : readSigned (.number (.ofInt n)) = .ok (n : Int) := by
  refine Json.readInteger_ofInt "i64" ?_ ?_
  · unfold Word.least64 Word.bound64
    omega
  · unfold Word.size64
    omega

theorem foldMembers_optional {α σ : Type} {take : σ → String → Option (Json.Reader σ)} {name : String}
    {read : Json.Reader α} {write : α → Json.Value} (put : Option (Option α) → σ)
    (htake : take (put none) name = some (readField name none (readOptional read) fun v => put (some v)))
    (h : Recovers read write) (hnull : ∀ a, (write a).tree ≠ .null) (o : Option α)
    (rest : List (String × Json.Value)) :
    foldMembers take (put none) (memberTrees (optionalMember name (o.map write) ++ rest)) =
      foldMembers take (put (o.map some)) (memberTrees rest) := by
  cases o with
  | none => rfl
  | some a => exact Eq.trans (foldMembers_field htake (h.readOptional_tree (hnull a))) rfl

theorem foldMembers_members (link : PageLink) : foldMembers Fields.take {} (memberTrees link.members) =
    .ok ⟨some link.pageSize, some link.page, (link.search.map SearchTerm.text).map some,
      link.sortOrder.map some⟩ := by
  have hsize : link.pageSize ≤ 1000 := link.pageSize_mem.2
  have hpage : link.page ≤ 0xFFFFFFFF := link.page_le
  refine Eq.trans (foldMembers_field rfl (readSigned_ofInt (by omega))) ?_
  refine Eq.trans (foldMembers_field rfl (readSigned_ofInt (by omega))) ?_
  -- A member that is left out leaves its field without a value, so both fields are as what was written.
  let sizes : Fields := { pageSize := some link.pageSize, page := some link.page }
  let terms : Fields := { sizes with search := (link.search.map SearchTerm.text).map some }
  refine Eq.trans (foldMembers_optional (fun v => { sizes with search := v }) rfl Recovers.string
    (fun _ => nofun) _ _) ?_
  refine Eq.trans (foldMembers_optional (fun v => { terms with sortOrder := v }) rfl SortOrder.recovers
    (fun _ => nofun) _ _) ?_
  rfl

theorem readParams_json (link : PageLink) : readParams link.json.tree = .ok link.params := by
  rw [json_eq]
  show (foldMembers Fields.take {} (memberTrees link.members) >>= Fields.finish) = _
  rw [foldMembers_members, params]
  cases link.search <;> cases link.sortOrder <;> rfl

/-- The fields of a link pass the checks and make the link again. -/
theorem link_params (link : PageLink) : link.params.link = .ok link := by
  have hsizes : ofRaw link.pageSize link.page = .ok
      { pageSize := link.pageSize, page := link.page, pageSize_mem := link.pageSize_mem, page_le := link.page_le } := by
    have hsize : 1 ≤ link.pageSize ∧ link.pageSize ≤ 1000 := link.pageSize_mem
    have hpage : link.page ≤ 0xFFFFFFFF := link.page_le
    exact ofRaw_eq_ok (by omega) (by omega)
  rw [params, Params.link, hsizes]
  obtain ⟨pageSize, page, search, sortOrder, _, _⟩ := link
  cases search with
  | none => cases sortOrder <;> rfl
  | some term =>
    -- The term has no blanks at its ends, so it is trimmed to itself.
    simp only [Option.map_some, bind, Except.bind, withSearch_eq]
    cases sortOrder <;> rfl

theorem recovers : Recovers read json := by
  refine ⟨fun link => ?_, fun link => ?_⟩
  · rw [json_eq, members]
    cases link.search <;> cases link.sortOrder <;> rfl
  · rw [read, readParams_json]
    simp only [bind, Except.bind, link_params]

/-- A link, however it was made, is the link that is read from its compact text and from its pretty one: no number
is refused and no letter of its term is trimmed away. -/
theorem link_survives_text (link : PageLink) :
    Json.decode read link.json.compact = .ok link ∧ Json.decode read link.json.pretty = .ok link :=
  ⟨recovers.decode_compact link, recovers.decode_pretty link⟩

end PageLink

end ResourceCatalog
