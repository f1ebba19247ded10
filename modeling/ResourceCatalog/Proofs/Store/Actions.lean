import ResourceCatalog.Catalog
import ResourceCatalog.Proofs.Store.Failures

/-!
# Actions that fail in order

What operations keep to, what is put together of them keeps to as well: it fails in the same order, and where it fails
or only reads it leaves the store as it is.
-/

namespace ResourceCatalog.Store

variable {α β : Type} {s s' : Store} {refused reads : Prop} {x y : ExceptT Failure (StateM Store) α}

theorem run_bind (x : ExceptT Failure (StateM Store) α) (f : α → ExceptT Failure (StateM Store) β) (s : Store) :
    (x >>= f).run.run s = match x.run.run s with
      | (.ok a, s') => (f a).run.run s'
      | (.error e, s') => (.error e, s') := by
  rw [ExceptT.run_bind, StateT.run_bind]
  rcases x.run.run s with ⟨e | a, s'⟩ <;> rfl

theorem run_update_of_ok {f : Store → Outcome (α × Store)} {result : α × Store} (h : f s = .ok result) :
    (update f).run.run s = (.ok result.1, result.2) := by
  simp only [update, ExceptT.run_mk, StateT.run, h]

theorem run_update_of_error {f : Store → Outcome (α × Store)} {e : Failure} (h : f s = .error e) :
    (update f).run.run s = (.error e, s) := by
  simp only [update, ExceptT.run_mk, StateT.run, h]

/-- The action fails in order, and it leaves the store as it is if it fails or if it only reads. -/
structure ActsInOrder (refused reads : Prop) (s : Store) (x : ExceptT Failure (StateM Store) α) : Prop where
  failsInOrder : FailsInOrder refused s (failureKind? (x.run.run s).1)
  unchanged : failureKind? (x.run.run s).1 ≠ none ∨ reads → (x.run.run s).2 = s

namespace ActsInOrder

theorem congr (hx : ActsInOrder refused reads s x) (h : y.run.run s = x.run.run s) : ActsInOrder refused reads s y := by
  obtain ⟨hfails, hunchanged⟩ := hx
  rw [← h] at hfails hunchanged
  exact ⟨hfails, hunchanged⟩

theorem of_error {e : Failure} (hx : x.run.run s = (.error e, s)) (h : FailsInOrder refused s (some e.kind)) :
    ActsInOrder refused reads s x := by
  refine ⟨?_, fun _ => ?_⟩
  · rw [hx]
    exact h
  · rw [hx]

theorem of_ok {a : α} (hx : x.run.run s = (.ok a, s')) (h : FailsInOrder refused s none) (hsame : reads → s' = s) :
    ActsInOrder refused reads s x := by
  refine ⟨?_, ?_⟩
  · rw [hx]
    exact h
  · rw [hx]
    rintro (hfails | hreads)
    · exact absurd rfl hfails
    · exact hsame hreads

theorem pure (h : ¬refused) (ha : s.available = true) (a : α) :
    ActsInOrder refused reads s (pure a : ExceptT Failure (StateM Store) α) :=
  of_ok rfl (.of_available h ha nofun nofun) fun _ => rfl

theorem ask {f : Store → Outcome α} (h : FailsInOrder refused s (failureKind? (f s))) :
    ActsInOrder refused True s (Store.ask f) :=
  ⟨h, fun _ => rfl⟩

theorem update {f : Store → Outcome (α × Store)} (h : FailsInOrder refused s (failureKind? (f s))) :
    ActsInOrder refused False s (Store.update f) := by
  cases hf : f s with
  | ok result =>
    rw [hf] at h
    exact of_ok (run_update_of_ok hf) h False.elim
  | error e =>
    rw [hf] at h
    exact of_error (run_update_of_error hf) h

/-- What was read decides how to read on. -/
theorem bind {f : α → ExceptT Failure (StateM Store) β} (hx : ActsInOrder refused True s x)
    (hf : ∀ a, ¬refused → s.available = true → ActsInOrder refused True s (f a)) :
    ActsInOrder refused True s (x >>= f) := by
  obtain ⟨hfails, hunchanged⟩ := hx
  have hsame := hunchanged (.inr trivial)
  have hrun := run_bind x f s
  rcases hresult : x.run.run s with ⟨e | a, s'⟩
  all_goals
    rw [hresult] at hrun hsame hfails
    cases hsame
  · exact of_error hrun hfails
  · exact (hf a hfails.of_none.1 hfails.of_none.2).congr hrun

theorem map (hx : ActsInOrder refused reads s x) (g : α → β) :
    ActsInOrder refused reads s (x >>= fun a => Pure.pure (g a)) := by
  obtain ⟨hfails, hunchanged⟩ := hx
  have hrun := run_bind x (fun a => Pure.pure (g a)) s
  rcases hresult : x.run.run s with ⟨e | a, s'⟩
  all_goals rw [hresult] at hrun hunchanged hfails
  · cases hunchanged (.inl nofun)
    exact of_error hrun hfails
  · exact of_ok hrun hfails fun hreads => hunchanged (.inr hreads)

end ActsInOrder

end ResourceCatalog.Store
