import ResourceCatalog.Proofs.Store.Listing

/-!
# Isolation of tenants

A list query of a tenant reads the tenant's rows and, if it shows more than them, those of the system
tenant. Two stores that agree on these rows answer it alike, and what is saved or removed for somebody else
leaves these rows as they are.
-/

namespace ResourceCatalog

/-- A list query of the tenant reads the rows of the owner. -/
def ListScope.reads (scope : ListScope) (tenant owner : TenantId) : Bool :=
  match scope with
  | .own => owner = tenant
  | .visible => owner = tenant ∨ owner = .system

theorem ListScope.reads_tenant (scope : ListScope) (tenant : TenantId) : scope.reads tenant tenant = true := by
  cases scope <;> simp [reads]

namespace Rows

/-- The rows that a list query of the tenant reads. -/
def readBy (rows : Rows) (scope : ListScope) (tenant : TenantId) : List Resource :=
  rows.toList.filter fun r => scope.reads tenant r.tenantId

theorem mem_readBy_iff {rows : Rows} {scope : ListScope} {tenant : TenantId} {r : Resource} :
    r ∈ rows.readBy scope tenant ↔ r ∈ rows.toList ∧ scope.reads tenant r.tenantId = true := List.mem_filter

end Rows

namespace Store

/-! ## What a list query depends on -/

section Reads

variable {rows rows' : Rows} {scope : ListScope} {tenant : TenantId} {link : PageLink}

theorem isReplaced_eq_any (rows : Rows) (scope : ListScope) (tenant : TenantId) (r : Resource) :
    isReplaced rows tenant r = (rows.readBy scope tenant).any fun own =>
      own.tenantId = tenant ∧ own.resourceType = r.resourceType ∧ own.resourceKey = r.resourceKey := by
  rw [isReplaced, Bool.eq_iff_iff, List.any_eq_true, List.any_eq_true]
  constructor
  · rintro ⟨own, hown, hkey⟩
    have htenant : own.tenantId = tenant := (of_decide_eq_true hkey).1
    refine ⟨own, Rows.mem_readBy_iff.2 ⟨hown, ?_⟩, hkey⟩
    rw [htenant]
    exact scope.reads_tenant tenant
  · rintro ⟨own, hown, hkey⟩
    exact ⟨own, (Rows.mem_readBy_iff.1 hown).1, hkey⟩

theorem covers_congr (h : rows.readBy scope tenant = rows'.readBy scope tenant) (r : Resource) :
    covers rows scope tenant r = covers rows' scope tenant r := by
  have hreplaced : isReplaced rows tenant r = isReplaced rows' tenant r := by
    rw [isReplaced_eq_any rows scope, isReplaced_eq_any rows' scope, h]
  unfold covers
  rw [hreplaced]

theorem reads_of_covers {r : Resource} (h : covers rows scope tenant r = true) :
    scope.reads tenant r.tenantId = true := by
  cases scope with
  | own => exact h
  | visible =>
    rcases of_decide_eq_true h with htenant | ⟨hsystem, -⟩
    · exact decide_eq_true (.inl htenant)
    · exact decide_eq_true (.inr (of_decide_eq_true hsystem))

/-- The whole list is a selection of the rows that are read. -/
theorem selected_eq_filter_readBy (rows : Rows) (scope : ListScope) (tenant : TenantId) (link : PageLink) :
    selected rows scope tenant link =
      (rows.readBy scope tenant).filter fun r => covers rows scope tenant r && matchesSearch link r := by
  rw [selected, Rows.readBy, List.filter_filter]
  apply List.filter_congr
  intro r _
  cases hcovers : covers rows scope tenant r with
  | false => rfl
  | true => rw [reads_of_covers hcovers, Bool.and_true]

variable {s s' : Store}

/-- Stores that agree on the rows that a list query reads answer it alike. -/
theorem list_congr (hrows : s'.rows.readBy scope tenant = s.rows.readBy scope tenant)
    (havailable : s'.available = s.available) (link : PageLink) :
    s'.list scope tenant link = s.list scope tenant link := by
  have hselected : selected s'.rows scope tenant link = selected s.rows scope tenant link := by
    rw [selected_eq_filter_readBy, selected_eq_filter_readBy, hrows]
    apply List.filter_congr
    intro r _
    rw [covers_congr hrows r]
  rw [list, list, hselected, ensureAvailable, ensureAvailable, havailable]

end Reads

/-! ## What others change -/

variable {s s' : Store} {scope : ListScope} {tenant : TenantId} {r row : Resource} {id : ResourceId}

theorem stored_tenantId {rows : Rows} {r old : Resource} (h : rows.get? r.id = some old) :
    (stored rows r).tenantId = old.tenantId := by
  rw [stored, h]

theorem save_readBy (hsave : s.save r = .ok (row, s')) (hother : scope.reads tenant row.tenantId = false) :
    s'.rows.readBy scope tenant = s.rows.readBy scope tenant := by
  obtain ⟨-, -, -, hrow, rfl⟩ := save_eq_ok_iff.1 hsave
  apply Rows.filter_toList_insert hother
  -- The row that is replaced belongs to the same tenant, whatever tenant was given.
  intro old hold
  rw [← stored_tenantId hold, ← hrow]
  exact hother

theorem remove_readBy {removed : Bool} (hget : s.rows.get? id = some row)
    (hremove : s.remove id = .ok (removed, s')) (hother : scope.reads tenant row.tenantId = false) :
    s'.rows.readBy scope tenant = s.rows.readBy scope tenant := by
  obtain ⟨-, -, rfl⟩ := remove_eq_ok_iff.1 hremove
  apply Rows.filter_toList_erase
  intro old hold
  rw [hget] at hold
  cases hold
  exact hother

/-- Two stores answer a tenant's queries alike as far as they do not read the owner's rows. -/
structure SameFor (s s' : Store) (tenant owner : TenantId) : Prop where
  available : s'.available = s.available
  readBy : ∀ scope : ListScope, scope.reads tenant owner = false →
    s'.rows.readBy scope tenant = s.rows.readBy scope tenant

namespace SameFor

variable {owner : TenantId}

theorem list_own (h : SameFor s s' tenant owner) (hother : owner ≠ tenant) (link : PageLink) :
    s'.list .own tenant link = s.list .own tenant link :=
  list_congr (h.readBy .own (decide_eq_false hother)) h.available link

theorem list_visible (h : SameFor s s' tenant owner) (hother : owner ≠ tenant) (hsystem : owner ≠ .system)
    (link : PageLink) : s'.list .visible tenant link = s.list .visible tenant link :=
  list_congr (h.readBy .visible (decide_eq_false (not_or.2 ⟨hother, hsystem⟩))) h.available link

end SameFor

theorem save_sameFor (hsave : s.save r = .ok (row, s')) : SameFor s s' tenant row.tenantId :=
  ⟨save_available hsave, fun _ hother => save_readBy hsave hother⟩

theorem remove_sameFor {removed : Bool} (hget : s.rows.get? id = some row)
    (hremove : s.remove id = .ok (removed, s')) : SameFor s s' tenant row.tenantId :=
  ⟨remove_available hremove, fun _ hother => remove_readBy hget hremove hother⟩

/-- What is saved or removed for another tenant leaves every page of a tenant's own list as it is, and every
page of what the tenant sees too unless the other one is the system tenant. A row that is stored for another
tenant stays that tenant's, also when it is saved under the name of this one. -/
theorem lists_ignore_other_tenants (s : Store) (tenant : TenantId) (link : PageLink) :
    (∀ r row s', s.save r = .ok (row, s') → row.tenantId ≠ tenant →
      s'.list .own tenant link = s.list .own tenant link ∧
      (row.tenantId ≠ .system → s'.list .visible tenant link = s.list .visible tenant link)) ∧
    (∀ id row removed s', s.rows.get? id = some row → s.remove id = .ok (removed, s') →
      row.tenantId ≠ tenant →
      s'.list .own tenant link = s.list .own tenant link ∧
      (row.tenantId ≠ .system → s'.list .visible tenant link = s.list .visible tenant link)) ∧
    ∀ r old row s', s.rows.get? r.id = some old → old.tenantId ≠ tenant → s.save r = .ok (row, s') →
      row.tenantId = old.tenantId ∧ s'.list .own tenant link = s.list .own tenant link ∧
      (old.tenantId ≠ .system → s'.list .visible tenant link = s.list .visible tenant link) := by
  refine ⟨?_, ?_, ?_⟩
  · intro r row s' hsave hother
    have hsame : SameFor s s' tenant row.tenantId := save_sameFor hsave
    exact ⟨hsame.list_own hother link, fun hsystem => hsame.list_visible hother hsystem link⟩
  · intro id row removed s' hget hremove hother
    have hsame : SameFor s s' tenant row.tenantId := remove_sameFor hget hremove
    exact ⟨hsame.list_own hother link, fun hsystem => hsame.list_visible hother hsystem link⟩
  · intro r old row s' hget hother hsave
    obtain ⟨-, -, -, hrow, -⟩ := save_eq_ok_iff.1 hsave
    have howner : row.tenantId = old.tenantId := by rw [hrow, stored_tenantId hget]
    have hsame : SameFor s s' tenant old.tenantId := howner ▸ save_sameFor hsave
    exact ⟨howner, hsame.list_own hother link, fun hsystem => hsame.list_visible hother hsystem link⟩

/-- Tenant 7 saves a new row, tenant 9 saves a change of a row of tenant 7 under its own name, and a row of
the system tenant is removed: the lists of tenant 9 that do not read these rows stay. -/
theorem lists_ignore_other_tenants_sample :
    ∃ row s₁ s₂ s₃, sample.rows.get? ⟨⟨3⟩⟩ = some (sampleRow 3 7 "Own" "a") ∧
      sample.save (sampleRow 5 7 "New" "n") = .ok (sampleRow 5 7 "New" "n", s₁) ∧
      sample.save (sampleRow 3 9 "Taken" "z") = .ok (row, s₂) ∧ sample.remove ⟨⟨1⟩⟩ = .ok (true, s₃) ∧
      s₁.list .visible ⟨⟨9⟩⟩ sampleLink = sample.list .visible ⟨⟨9⟩⟩ sampleLink ∧
      (row.tenantId = ⟨⟨7⟩⟩ ∧ s₂.list .own ⟨⟨9⟩⟩ sampleLink = sample.list .own ⟨⟨9⟩⟩ sampleLink ∧
        s₂.list .visible ⟨⟨9⟩⟩ sampleLink = sample.list .visible ⟨⟨9⟩⟩ sampleLink) ∧
      s₃.list .own ⟨⟨9⟩⟩ sampleLink = sample.list .own ⟨⟨9⟩⟩ sampleLink := by
  obtain ⟨hsaved, hremoved, htaken⟩ := lists_ignore_other_tenants sample ⟨⟨9⟩⟩ sampleLink
  have hget : sample.rows.get? ⟨⟨3⟩⟩ = some (sampleRow 3 7 "Own" "a") := by decide
  have hshared : sample.rows.get? ⟨⟨1⟩⟩ = some (sampleRow 1 0 "Shared" "a") := by decide
  have hnew : sample.save (sampleRow 5 7 "New" "n") =
      .ok (sampleRow 5 7 "New" "n",
        { sample with rows := sample.rows.insert ⟨⟨5⟩⟩ (sampleRow 5 7 "New" "n") }) := by rfl
  have htake : sample.save (sampleRow 3 9 "Taken" "z") =
      .ok (sampleRow 3 7 "Taken" "z",
        { sample with rows := sample.rows.insert ⟨⟨3⟩⟩ (sampleRow 3 7 "Taken" "z") }) := by rfl
  have hremove : sample.remove ⟨⟨1⟩⟩ = .ok (true, { sample with rows := sample.rows.erase ⟨⟨1⟩⟩ }) := by rfl
  obtain ⟨howner, hown, hvisible⟩ := htaken _ _ _ _ hget (by decide) htake
  refine ⟨_, _, _, _, hget, hnew, htake, hremove, ?_, ⟨howner, hown, hvisible (by decide)⟩, ?_⟩
  · exact (hsaved _ _ _ hnew (by decide)).2 (by decide)
  · exact (hremoved _ _ _ _ hshared hremove (by decide)).1

end Store

end ResourceCatalog
