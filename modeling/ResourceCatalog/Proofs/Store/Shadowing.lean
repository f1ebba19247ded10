import ResourceCatalog.Proofs.Store.Listing

/-!
# Shadowing

A tenant's row hides the system tenant's row of the same type and key, and nothing else does. The list of
what a tenant sees has one row for every type and key that the tenant or the system tenant uses.
-/

namespace ResourceCatalog

theorem filter_eq_singleton {α : Type} [DecidableEq α] {l : List α} {a : α} {p : α → Bool} (hnodup : l.Nodup)
    (ha : a ∈ l) (hp : ∀ x ∈ l, p x = true ↔ x = a) : l.filter p = [a] := by
  have hfilter : l.filter p = l.filter (· = a) := by
    apply List.filter_congr
    intro x hx
    rw [Bool.eq_iff_iff, hp x hx, decide_eq_true_iff]
  rw [hfilter, List.filter_eq, List.count_eq_one_of_mem hnodup ha]
  rfl

namespace Rows

variable {rows : Rows} {tenant : TenantId} {r x : Resource}

theorem Consistent.eq_of_naturalKey (h : rows.Consistent) (hr : r ∈ rows.toList) (hx : x ∈ rows.toList)
    (hkey : x.naturalKey = r.naturalKey) : x = r := by
  have hgetx := h.get?_of_mem hx
  have hgetr := h.get?_of_mem hr
  by_cases hid : x.id = r.id
  · rw [hid, hgetr] at hgetx
    exact (Option.some.inj hgetx).symm
  · exact absurd hkey (h.key_unique x.id r.id x r hgetx hgetr hid)

/-- What a tenant sees under the type and key of a row of its own is that row. -/
theorem Consistent.shows_own (h : rows.Consistent) (hr : r ∈ rows.toList) (hown : r.tenantId = tenant)
    (hx : x ∈ rows.toList) (hshows : rows.Shows tenant .visible x) (hkey : x.typeAndKey = r.typeAndKey) :
    x = r := by
  cases hshows with
  | own hxown => exact h.eq_of_naturalKey hr hx (Resource.naturalKey_eq_iff.2 ⟨hxown.trans hown.symm, hkey⟩)
  | shared hsystem hfree => exact absurd hkey.symm (hfree r hr hown)

/-- What a tenant sees under a type and key that it does not use itself is the system tenant's row. -/
theorem Consistent.shows_shared (h : rows.Consistent) (hr : r ∈ rows.toList) (hsystem : r.tenantId = .system)
    (hfree : ∀ own ∈ rows.toList, own.tenantId = tenant → own.typeAndKey ≠ r.typeAndKey)
    (hx : x ∈ rows.toList) (hshows : rows.Shows tenant .visible x) (hkey : x.typeAndKey = r.typeAndKey) :
    x = r := by
  cases hshows with
  | own hxown => exact absurd hkey (hfree x hx hxown)
  | shared hxsystem _ =>
    exact h.eq_of_naturalKey hr hx (Resource.naturalKey_eq_iff.2 ⟨hxsystem.trans hsystem.symm, hkey⟩)

end Rows

namespace Store

variable {s : Store} {tenant : TenantId} {o : ResourceOrdering} {l : List Resource} {r : Resource}

/-- A row that is shown, and is all that is shown under its type and key, stands in the list once. -/
theorem filter_typeAndKey_eq (hl : o.Arranges (s.rows.wanted .visible tenant none) l) (hr : r ∈ s.rows.toList)
    (hshows : s.rows.Shows tenant .visible r)
    (honly : ∀ x ∈ s.rows.toList, s.rows.Shows tenant .visible x → x.typeAndKey = r.typeAndKey → x = r) :
    l.filter (fun x => x.typeAndKey = r.typeAndKey) = [r] := by
  have hnone : ∀ term, (none : Option SearchTerm) = some term → r.titleMatches term.chars = true := by
    intro term hterm
    cases hterm
  apply filter_eq_singleton hl.nodup ((hl.mem_iff r).2 ⟨hr, hshows, hnone⟩)
  intro x hx
  obtain ⟨hmem, hxshows, -⟩ := (hl.mem_iff x).1 hx
  rw [decide_eq_true_iff]
  exact ⟨honly x hmem hxshows, fun h => h ▸ rfl⟩

/-- What a tenant sees without a search has exactly one row under every type and key that it or the system
tenant uses: its own if there is one, else the system tenant's. It has no row of a third tenant. -/
theorem visible_list_resolves_keys (hs : s.Reachable) (tenant : TenantId) (o : ResourceOrdering) :
    ∃ l, s.Serves .visible tenant none o l ∧
      (∀ r ∈ s.rows.toList, r.tenantId = tenant → l.filter (fun x => x.typeAndKey = r.typeAndKey) = [r]) ∧
      (∀ r ∈ s.rows.toList, r.tenantId = .system →
        (∀ own ∈ s.rows.toList, own.tenantId = tenant → own.typeAndKey ≠ r.typeAndKey) →
        l.filter (fun x => x.typeAndKey = r.typeAndKey) = [r]) ∧
      ∀ r ∈ l, r ∈ s.rows.toList ∧ (r.tenantId = tenant ∨ r.tenantId = .system) := by
  have h := hs.consistent
  -- One list for all pages. Consistency gives at most one row under a key, `Shows` gives at least one.
  have hmem : ∀ r ∈ s.rows.wanted .visible tenant none, r ∈ s.rows.toList := fun r hr => hr.1
  obtain ⟨l, hl⟩ := h.exists_arranges o hmem
  refine ⟨l, serves_of_arranges h hl, ?_, ?_, ?_⟩
  · intro r hr hown
    exact filter_typeAndKey_eq hl hr (.own hown) fun x hx => h.shows_own hr hown hx
  · intro r hr hsystem hfree
    exact filter_typeAndKey_eq hl hr (.shared hsystem hfree) fun x hx => h.shows_shared hr hsystem hfree hx
  · intro r hr
    obtain ⟨hrows, hshows, -⟩ := (hl.mem_iff r).1 hr
    cases hshows with
    | own hown => exact ⟨hrows, .inl hown⟩
    | shared hsystem _ => exact ⟨hrows, .inr hsystem⟩

/-- Tenant 7 hides one of two rows of the system tenant. -/
theorem visible_list_resolves_keys_sample :
    sample.Reachable ∧
    ∃ l, sample.Serves .visible ⟨⟨7⟩⟩ none .creation l ∧
      (∀ r ∈ sample.rows.toList, r.tenantId = ⟨⟨7⟩⟩ →
        l.filter (fun x => x.typeAndKey = r.typeAndKey) = [r]) ∧
      (∀ r ∈ sample.rows.toList, r.tenantId = .system →
        (∀ own ∈ sample.rows.toList, own.tenantId = ⟨⟨7⟩⟩ → own.typeAndKey ≠ r.typeAndKey) →
        l.filter (fun x => x.typeAndKey = r.typeAndKey) = [r]) ∧
      ∀ r ∈ l, r ∈ sample.rows.toList ∧ (r.tenantId = ⟨⟨7⟩⟩ ∨ r.tenantId = .system) := by
  have hreach : sample.Reachable := ⟨sampleRun, rfl⟩
  exact ⟨hreach, visible_list_resolves_keys hreach ⟨⟨7⟩⟩ .creation⟩

end Store

end ResourceCatalog
