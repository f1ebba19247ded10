import ResourceCatalog.Proofs.Id.Spelling
import ResourceCatalog.Proofs.Json.Reader
import ResourceCatalog.Proofs.Time.Parser
import ResourceCatalog.Resource.Basic

/-!
# Resources through their texts

Resources are recovered from what is written of them, whatever their titles and keys are, unless they were made in a
leap second that does not end its minute. That is read as the second after.
-/

namespace ResourceCatalog

open Json (ReadsBack Recovers foldMembers foldMembers_field)

theorem Id.recovers_uuid : Recovers Id.readUuid fun u => .text u.text := by
  apply ReadsBack.parsed
  intro u
  rw [Id.Uuid.text, String.toList_ofList, Id.Uuid.parse_chars]
  rfl

theorem TenantId.recovers : Recovers TenantId.read TenantId.json := Id.recovers_uuid.wrapped fun _ => rfl

theorem ResourceId.recovers : Recovers ResourceId.read ResourceId.json := Id.recovers_uuid.wrapped fun _ => rfl

theorem ResourceType.recovers : Recovers ResourceType.read ResourceType.json := by
  apply Recovers.choice
  intro t
  cases t <;> rfl

namespace Resource

theorem readsBack_timestamp : ReadsBack readTimestamp timestampJson Time.Timestamp.shown := by
  apply ReadsBack.parsed
  intro t
  rw [Time.Timestamp.text, String.toList_ofList, Time.Timestamp.parse_localChars]
  rfl

/-- The resource with its instant as its text shows it. -/
def shown (r : Resource) : Resource := { r with createdAt := r.createdAt.shown }

theorem shown_eq_self_iff {r : Resource} : r.shown = r ↔ r.createdAt.LeapEndsMinute := by
  rw [← Time.Timestamp.shown_eq_self_iff]
  constructor
  · exact congrArg createdAt
  · intro h
    rw [shown, h]

theorem foldMembers_json (r : Resource) :
    foldMembers Fields.take {} (Json.memberTrees [("id", r.id.json), ("createdAt", timestampJson r.createdAt),
      ("tenantId", r.tenantId.json), ("title", .text r.title), ("resourceType", r.resourceType.json),
      ("resourceKey", .text r.resourceKey)]) =
    .ok ⟨some r.id, some r.createdAt.shown, some r.tenantId, some r.title, some r.resourceType,
      some r.resourceKey⟩ := by
  refine Eq.trans (foldMembers_field rfl (ResourceId.recovers.read_tree r.id)) ?_
  refine Eq.trans (foldMembers_field rfl (readsBack_timestamp.read_tree r.createdAt)) ?_
  refine Eq.trans (foldMembers_field rfl (TenantId.recovers.read_tree r.tenantId)) ?_
  refine Eq.trans (foldMembers_field rfl (Recovers.string.read_tree r.title)) ?_
  refine Eq.trans (foldMembers_field rfl (ResourceType.recovers.read_tree r.resourceType)) ?_
  refine Eq.trans (foldMembers_field rfl (Recovers.string.read_tree r.resourceKey)) ?_
  rfl

theorem readsBack : ReadsBack read json shown := by
  refine ⟨fun _ => rfl, fun r => ?_⟩
  show (foldMembers Fields.take {} _ >>= Fields.finish) = _
  rw [foldMembers_json r]
  rfl

/-- The compact text of a resource and its pretty one are read as the resource with its instant as they show it. That
is the resource itself just if it was not made in a leap second before the end of a minute. -/
theorem resource_survives_text (r : Resource) :
    Json.decode read r.json.compact = .ok r.shown ∧ Json.decode read r.json.pretty = .ok r.shown ∧
      (r.shown = r ↔ r.createdAt.LeapEndsMinute) :=
  ⟨readsBack.decode_compact r, readsBack.decode_pretty r, shown_eq_self_iff⟩

/-- A resource made a third of a second into a leap second behind 23:56:04. -/
def madeInLeapSecond : Resource where
  id := ⟨⟨⟨9, by decide⟩⟩⟩
  createdAt := ⟨⟨2015, 9, 8, by decide, by decide⟩, 23, 56, 4, 1333333333, by decide, by decide, by decide, by decide⟩
  tenantId := ⟨⟨⟨7, by decide⟩⟩⟩
  title := "Leap"
  resourceType := .jks
  resourceKey := "l"

/-- It is read from its text as made a third of a second into the second after. -/
theorem leap_second_lost_in_text : Json.decode read madeInLeapSecond.json.compact ≠ .ok madeInLeapSecond := by
  rw [readsBack.decode_compact]
  intro h
  have hends := shown_eq_self_iff.1 (Except.ok.inj h)
  exact absurd hends (by decide)

end Resource

end ResourceCatalog
