import ResourceCatalog.Proofs.Resource.Sorting
import ResourceCatalog.Proofs.Store.Save

/-!
# The order of failures

An operation looks at what it is given, then at whether the store can be reached, and only then at the rows. So what
is refused is refused by every store, and everything else fails alike while the store cannot be reached.
-/

namespace ResourceCatalog.Store

variable {α β : Type} {s : Store} {refused : Prop}

/-- Of the reasons to fail, that something is refused comes first, and that the store cannot be reached comes next. -/
structure FailsInOrder (refused : Prop) (s : Store) (kind : Option Failure.Kind) : Prop where
  validation_iff : kind = some .validation ↔ refused
  storeUnavailable_iff : kind = some .storeUnavailable ↔ ¬refused ∧ s.available = false

namespace FailsInOrder

theorem of_refused (h : refused) : FailsInOrder refused s (some .validation) :=
  ⟨iff_of_true rfl h, iff_of_false nofun fun h' => h'.1 h⟩

theorem of_unavailable (h : ¬refused) (ha : s.available = false) : FailsInOrder refused s (some .storeUnavailable) :=
  ⟨iff_of_false nofun h, iff_of_true rfl ⟨h, ha⟩⟩

theorem of_available {kind : Option Failure.Kind} (h : ¬refused) (ha : s.available = true)
    (hvalidation : kind ≠ some .validation) (hunavailable : kind ≠ some .storeUnavailable) :
    FailsInOrder refused s kind := by
  refine ⟨iff_of_false hvalidation h, iff_of_false hunavailable ?_⟩
  rw [ha]
  exact nofun

theorem of_none (h : FailsInOrder refused s none) : ¬refused ∧ s.available = true := by
  have hgood : ¬refused := fun h' => nomatch h.validation_iff.2 h'
  refine ⟨hgood, ?_⟩
  by_contra hna
  exact nomatch h.storeUnavailable_iff.2 ⟨hgood, Bool.eq_false_of_not_eq_true hna⟩

theorem ne_none_of_unavailable {kind : Option Failure.Kind} (h : FailsInOrder refused s kind)
    (ha : s.available = false) : kind ≠ none := by
  rintro rfl
  rw [h.of_none.2] at ha
  cases ha

/-- A check comes first. -/
theorem of_check {check : Outcome α} {rest : α → Outcome β}
    (hcheck : ∀ f, check = .error f → refused ∧ f.kind = .validation)
    (hrest : ∀ a, check = .ok a → FailsInOrder refused s (failureKind? (rest a))) :
    FailsInOrder refused s (failureKind? (check >>= rest)) := by
  cases check with
  | error f =>
    obtain ⟨hrefused, hkind⟩ := hcheck f rfl
    show FailsInOrder refused s (some f.kind)
    rw [hkind]
    exact .of_refused hrefused
  | ok a => exact hrest a rfl

/-- Then comes the store. -/
theorem of_ensureAvailable (h : ¬refused) {rest : Outcome α} (hvalidation : failureKind? rest ≠ some .validation)
    (hunavailable : failureKind? rest ≠ some .storeUnavailable) :
    FailsInOrder refused s (failureKind? (s.ensureAvailable >>= fun _ => rest)) := by
  by_cases ha : s.available = true
  · rw [ensureAvailable_of_available ha]
    exact .of_available h ha hvalidation hunavailable
  · rw [ensureAvailable, if_neg ha]
    exact .of_unavailable h (Bool.eq_false_of_not_eq_true ha)

end FailsInOrder

/-! ## Operations -/

theorem find_failsInOrder (s : Store) (id : ResourceId) : FailsInOrder False s (failureKind? (s.find id)) := by
  refine .of_ensureAvailable not_false ?_ ?_
  all_goals cases s.rows.get? id <;> exact nofun

theorem exists?_failsInOrder (s : Store) (id : ResourceId) : FailsInOrder False s (failureKind? (s.exists? id)) :=
  .of_ensureAvailable not_false nofun nofun

theorem save_failsInOrder (s : Store) (r : Resource) :
    FailsInOrder (r.check ≠ .ok ()) s (failureKind? (s.save r)) := by
  refine .of_check ?_ ?_
  · intro f hcheck
    exact ⟨by rw [hcheck]; exact nofun, Resource.kind_of_check_eq_error hcheck⟩
  · intro u hcheck
    refine .of_ensureAvailable (not_not.2 hcheck) ?_ ?_
    all_goals cases hclash : clash? s.rows (stored s.rows r) <;> simp [hclash, failureKind?, conflict, Failure.conflict]

theorem remove_failsInOrder (s : Store) (id : ResourceId) : FailsInOrder False s (failureKind? (s.remove id)) :=
  .of_ensureAvailable not_false nofun nofun

theorem list_failsInOrder (s : Store) (scope : ListScope) (tenant : TenantId) (link : PageLink) :
    FailsInOrder link.Unsortable s (failureKind? (s.list scope tenant link)) := by
  refine .of_check ?_ ?_
  · intro f ho
    exact ⟨ResourceOrdering.exists_ofLink_eq_error_iff.1 ⟨f, ho⟩, ResourceOrdering.kind_of_ofLink_eq_error ho⟩
  · intro o ho
    refine .of_ensureAvailable ?_ nofun nofun
    rw [← ResourceOrdering.exists_ofLink_eq_error_iff, ho]
    rintro ⟨f, hf⟩
    cases hf

/-! ## Steps -/

namespace Operation

/-- What the operation is given is refused. -/
def Refused : Operation → Prop
  | .save r => r.check ≠ .ok ()
  | .list _ _ link => link.Unsortable
  | .find _ | .exists _ | .remove _ | .setAvailable _ => False

/-- The operation only asks. -/
def Reads : Operation → Prop
  | .find _ | .exists _ | .list _ _ _ => True
  | .save _ | .remove _ | .setAvailable _ => False

/-- The operation is for the store itself and not for its rows. -/
def Switches : Operation → Prop
  | .setAvailable _ => True
  | .find _ | .exists _ | .list _ _ _ | .save _ | .remove _ => False

end Operation

def Answer.failureKind? : Answer → Option Failure.Kind
  | .failed f => some f.kind
  | .resource _ | .truth _ | .page _ | .done => none

theorem failureKind?_answerOf {wrap : α → Answer} (hwrap : ∀ a, (wrap a).failureKind? = none) (outcome : Outcome α) :
    (answerOf wrap outcome).failureKind? = ResourceCatalog.failureKind? outcome := by
  cases outcome with
  | ok a => exact hwrap a
  | error f => rfl

theorem failureKind?_changeOf {wrap : α → Answer} (hwrap : ∀ a, (wrap a).failureKind? = none)
    (outcome : Outcome (α × Store)) :
    (changeOf s wrap outcome).1.failureKind? = ResourceCatalog.failureKind? outcome := by
  cases outcome with
  | ok a => exact hwrap a.1
  | error f => rfl

theorem changeOf_of_failed {wrap : α → Answer} (hwrap : ∀ a, (wrap a).failureKind? = none)
    {outcome : Outcome (α × Store)} (h : (changeOf s wrap outcome).1.failureKind? ≠ none) :
    (changeOf s wrap outcome).2 = s := by
  cases outcome with
  | ok a => exact absurd (hwrap a.1) h
  | error f => rfl

theorem step_failsInOrder (s : Store) {op : Operation} (h : ¬op.Switches) :
    FailsInOrder op.Refused s (s.step op).1.failureKind? := by
  cases op with
  | save r =>
    rw [step, failureKind?_changeOf fun _ => rfl]
    exact save_failsInOrder s r
  | remove id =>
    rw [step, failureKind?_changeOf fun _ => rfl]
    exact remove_failsInOrder s id
  | find id =>
    rw [step, failureKind?_answerOf fun _ => rfl]
    exact find_failsInOrder s id
  | «exists» id =>
    rw [step, failureKind?_answerOf fun _ => rfl]
    exact exists?_failsInOrder s id
  | list scope tenant link =>
    rw [step, failureKind?_answerOf fun _ => rfl]
    exact list_failsInOrder s scope tenant link
  | setAvailable available => exact absurd trivial h

theorem step_unchanged {op : Operation} (h : (s.step op).1.failureKind? ≠ none ∨ op.Reads) : (s.step op).2 = s := by
  cases op with
  | find _ | «exists» _ | list _ _ _ => rfl
  | save r => exact changeOf_of_failed (fun _ => rfl) (h.resolve_right not_false)
  | remove id => exact changeOf_of_failed (fun _ => rfl) (h.resolve_right not_false)
  | setAvailable available => exact absurd rfl (h.resolve_right not_false)

end ResourceCatalog.Store
