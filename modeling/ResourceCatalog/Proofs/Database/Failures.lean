import ResourceCatalog.Proofs.Database.Replies

/-!
# Failures of queries

What a query can fail with is found request by request, like what it sends. A list whose order resolves fails only
with what the database reports or for a negative total; nothing of its link is refused any more.
-/

namespace ResourceCatalog.Database

namespace Query

variable {α β : Type} {P : Failure → Prop} {context : String}

/-- Whatever the database replies, a failure of the query is one of these. -/
def FailsOnly (P : Failure → Prop) (q : Query α) : Prop :=
  ∀ (σ : Type) (answer : σ → (request : Request) → Except Error request.Reply × σ) (c : σ) (e : Failure),
    (Program.run answer c q.run).1 = .error e → P e

theorem FailsOnly.pure (a : α) : FailsOnly P (pure a : Query α) := by
  intro σ answer c e h
  cases h

theorem FailsOnly.throw {e : Failure} (he : P e) : FailsOnly P (throw e : Query α) := by
  rintro σ answer c _ ⟨⟩
  exact he

theorem FailsOnly.request {r : Request} {f : r.Reply → Query β} (hreport : ∀ error, P (.ofDatabase context error))
    (hgo : ∀ reply, FailsOnly P (f reply)) : FailsOnly P (Query.request context r >>= f) := by
  intro σ answer c e h
  rw [run_request_bind] at h
  cases hreply : (answer c r).1 with
  | error error =>
    rw [hreply] at h
    cases h
    exact hreport error
  | ok reply =>
    rw [hreply] at h
    exact hgo reply σ answer (answer c r).2 e h

theorem FailsOnly.decoded {result : Except Error α} {f : α → Query β}
    (hreport : ∀ error, P (.ofDatabase context error)) (hgo : ∀ a, FailsOnly P (f a)) :
    FailsOnly P (Query.decoded context result >>= f) := by
  cases result with
  | ok a => exact hgo a
  | error error => exact FailsOnly.throw (hreport error)

theorem FailsOnly.first {rows : List α} {f : α → Query β} (hreport : ∀ error, P (.ofDatabase context error))
    (hgo : ∀ row, FailsOnly P (f row)) : FailsOnly P (Query.first context rows >>= f) := by
  cases rows with
  | cons row rows => exact hgo row
  | nil => exact FailsOnly.decoded hreport hgo

end Query

variable {scope : ListScope} {tenant : TenantId} {link : PageLink} {o : ResourceOrdering} {P : Failure → Prop}

theorem list_failsOnly (ho : ResourceOrdering.ofLink link = .ok o)
    (hreport : ∀ context error, P (.ofDatabase context error))
    (hnegative : ∀ total : Int, P (.internal s!"Resource count is negative: {total}")) :
    Query.FailsOnly P (list scope tenant link) := by
  rw [list, resolved_bind ho, Query.onPool_bind]
  refine .request (hreport _) fun _ => .request (hreport _) fun _ => .request (hreport _) fun _ => ?_
  -- The count.
  refine .request (hreport _) fun counts => .first (hreport _) fun row => .decoded (hreport _) fun total => ?_
  -- The rows, and the end of the transaction.
  refine .request (hreport _) fun rows => .decoded (hreport _) fun rs => .request (hreport _) fun _ => ?_
  by_cases hneg : total < 0
  · rw [if_pos hneg]
    exact .throw (hnegative total)
  · rw [if_neg hneg]
    exact .pure _

theorem kind_ofDatabase_ne_validation (context : String) (error : Error) :
    (Failure.ofDatabase context error).kind ≠ .validation := by
  unfold Failure.ofDatabase
  split <;> exact nofun

/-- A list is refused only for its sort order. -/
theorem ofLink_eq_error_of_list {σ : Type} {answer : σ → (request : Request) → Except Error request.Reply × σ} {c : σ}
    {e : Failure} (h : (Program.run answer c (list scope tenant link).run).1 = .error e) (hkind : e.kind = .validation) :
    ResourceOrdering.ofLink link = .error e := by
  cases ho : ResourceOrdering.ofLink link with
  | error e' =>
    rw [list, ho, Query.ofOutcome_error_bind] at h
    cases h
    rfl
  | ok o =>
    have hfails : Query.FailsOnly (fun e => e.kind ≠ .validation) (list scope tenant link) :=
      list_failsOnly ho kind_ofDatabase_ne_validation fun _ => nofun
    exact absurd hkind (hfails σ answer c e h)

/-- What is said of a sort order is not what is said of a number that does not fit. -/
theorem ofLink_ne_out_of_range (link : PageLink) (what : String) :
    ResourceOrdering.ofLink link ≠ .error (.validation (what ++ " is out of range")) := by
  intro h
  unfold ResourceOrdering.ofLink ResourceProperty.parse at h
  split at h
  · split at h
    · cases h
    · -- The two messages end in different letters.
      have hmessage := congrArg (fun f : Failure => f.message.toList.getLast?) (Except.error.inj h)
      simp only [Failure.validation, String.toList_append, List.getLast?_append] at hmessage
      exact absurd hmessage nofun
  · cases h

end ResourceCatalog.Database
