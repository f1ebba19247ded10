import ResourceCatalog.Proofs.Database.Exchanges

/-!
# Statements that fail

A statement fails with what the database reports, or with what cannot be read of its reply. A query reports a failed
statement if it ends there, with a failure that has the error as its cause. Like what a query sends, this is found
request by request.
-/

namespace ResourceCatalog.Database

/-- How many of the rows of its reply a statement is sent for. -/
inductive Fetch where
  /-- The first row, which has to be there. -/
  | one
  /-- The first row, if there is one. -/
  | optional
  | all
deriving DecidableEq, Repr

section Reading

variable {ρ α : Type}

def errorOf? : Except Error α → Option Error
  | .ok _ => none
  | .error error => some error

@[simp] theorem errorOf?_eq_none_iff {result : Except Error α} : errorOf? result = none ↔ ∃ a, result = .ok a := by
  cases result <;> simp [errorOf?]

@[simp] theorem errorOf?_eq_some_iff {result : Except Error α} {error : Error} :
    errorOf? result = some error ↔ result = .error error := by
  cases result <;> simp [errorOf?]

/-- What is wrong with the rows that a statement is sent for. -/
def Fetch.error? (read : ρ → Except Error α) : Fetch → List ρ → Option Error
  | .one, [] => some .rowNotFound
  | .optional, [] => none
  | .one, row :: _ | .optional, row :: _ => errorOf? (read row)
  | .all, rows => errorOf? (rows.mapM read)

end Reading

/-- The error of the statement, if it failed. -/
def Exchange.error? (fetch : Fetch) : Exchange → Option Error
  | ⟨_, .error error⟩ => some error
  | ⟨.numbers _, .ok rows⟩ => Fetch.one.error? single rows
  | ⟨.truths _, .ok rows⟩ => Fetch.one.error? single rows
  | ⟨.rows _, .ok rows⟩ => fetch.error? Row.resource rows
  | ⟨.acquire, .ok _⟩ | ⟨.command _, .ok _⟩ | ⟨.migrations, .ok _⟩ => none

variable {α σ : Type} {fetch : Fetch}

/-- At a statement that fails the program ends, with a failure that has its error as the cause. -/
def Program.Reports (fetch : Fetch) : Program (Outcome α) → Prop
  | .done _ => True
  | .ask request next => ∀ reply,
    (∀ error, Exchange.error? fetch ⟨request, reply⟩ = some error →
      ∃ context, next reply = .done (.error (.ofDatabase context error))) ∧
    (Exchange.error? fetch ⟨request, reply⟩ = none → (next reply).Reports fetch)

theorem Program.Reports.run {p : Program (Outcome α)} (h : p.Reports fetch)
    (answer : σ → (request : Request) → Except Error request.Reply × σ) (c : σ) {x : Exchange} {error : Error}
    (hx : x ∈ p.exchanges answer c) (herror : x.error? fetch = some error) :
    ∃ context, (p.run answer c).1 = .error (.ofDatabase context error) := by
  induction p generalizing c with
  | done a => cases hx
  | ask request next ih =>
    obtain ⟨hends, hgoes⟩ := h (answer c request).1
    rw [exchanges, List.mem_cons] at hx
    show ∃ context, ((next (answer c request).1).run answer (answer c request).2).1 = _
    rcases hx with rfl | hx
    · obtain ⟨context, hnext⟩ := hends error herror
      exact ⟨context, by rw [hnext]; rfl⟩
    · -- There is another exchange, so this one did not fail.
      cases hfirst : Exchange.error? fetch ⟨request, (answer c request).1⟩ with
      | none => exact ih _ (hgoes hfirst) _ hx
      | some first =>
        obtain ⟨context, hnext⟩ := hends first hfirst
        rw [hnext] at hx
        cases hx

namespace Query

variable {context : String} {r : Request} {requests : List Request} {post : List Exchange → Outcome α → Prop}

theorem reports_request {f : r.Reply → Query α}
    (hstop : ∀ reply error, Exchange.error? fetch ⟨r, .ok reply⟩ = some error →
      ∃ context, (f reply).run = .done (.error (.ofDatabase context error)))
    (hgo : ∀ reply, Exchange.error? fetch ⟨r, .ok reply⟩ = none → (f reply).run.Reports fetch) :
    (Query.request context r >>= f).run.Reports fetch := by
  rintro (error | reply)
  · refine ⟨?_, nofun⟩
    rintro _ ⟨⟩
    exact ⟨context, rfl⟩
  · exact ⟨hstop reply, hgo reply⟩

theorem reports_request_of_ok {f : r.Reply → Query α}
    (hok : ∀ reply, Exchange.error? fetch ⟨r, .ok reply⟩ = none) (hgo : ∀ reply, (f reply).run.Reports fetch) :
    (Query.request context r >>= f).run.Reports fetch := by
  refine reports_request (fun reply error herror => ?_) fun reply _ => hgo reply
  rw [hok reply] at herror
  cases herror

/-- The query sends `requests` in order as long as they succeed, and it reports the one that fails. If none fails,
exchanges and outcome are as `post` says. -/
structure Course (fetch : Fetch) (requests : List Request) (post : List Exchange → Outcome α → Prop)
    (q : Query α) : Prop where
  keepsTo : KeepsTo (fun x => x.error? fetch = none) requests post q
  reports : q.run.Reports fetch

theorem Course.done {q : Query α} {outcome : Outcome α} (h : q.run = .done outcome) (hpost : post [] outcome) :
    Course fetch [] post q := by
  refine ⟨.done h hpost, ?_⟩
  rw [h]
  exact trivial

theorem Course.request {f : r.Reply → Query α}
    (hstop : ∀ reply error, Exchange.error? fetch ⟨r, .ok reply⟩ = some error →
      ∃ context, (f reply).run = .done (.error (.ofDatabase context error)))
    (hgo : ∀ reply, Exchange.error? fetch ⟨r, .ok reply⟩ = none →
      Course fetch requests (fun es => post (⟨r, .ok reply⟩ :: es)) (f reply)) :
    Course fetch (r :: requests) post (Query.request context r >>= f) := by
  refine ⟨.request (fun _ => nofun) ?_ fun reply h => (hgo reply h).keepsTo,
    reports_request hstop fun reply h => (hgo reply h).reports⟩
  intro reply hfails
  obtain ⟨error, herror⟩ := Option.ne_none_iff_exists'.1 hfails
  obtain ⟨context, hends⟩ := hstop reply error herror
  exact ⟨_, hends⟩

theorem Course.request_of_ok {f : r.Reply → Query α} (hok : ∀ reply, Exchange.error? fetch ⟨r, .ok reply⟩ = none)
    (hgo : ∀ reply, Course fetch requests (fun es => post (⟨r, .ok reply⟩ :: es)) (f reply)) :
    Course fetch (r :: requests) post (Query.request context r >>= f) := by
  refine .request (fun reply error herror => ?_) fun reply _ => hgo reply
  rw [hok reply] at herror
  cases herror

/-- Which replies are of use is a matter of the requests that are sent. -/
theorem KeepsTo.imp {useful useful' : Exchange → Prop} {post' : List Exchange → Outcome α → Prop} {q : Query α}
    (h : KeepsTo useful requests post q) (huseful : ∀ x : Exchange, x.request ∈ requests → (useful x ↔ useful' x))
    (hpost : ∀ exchanges outcome, post exchanges outcome → post' exchanges outcome) :
    KeepsTo useful' requests post' q := by
  intro σ answer c
  obtain ⟨inOrder, stops, fails, complete⟩ := h σ answer c
  have hsent : ∀ x ∈ Program.exchanges answer c q.run, (useful x ↔ useful' x) := fun x hx =>
    huseful x (inOrder.subset (List.mem_map_of_mem hx))
  refine ⟨inOrder, stops.imp_of_mem fun hx _ => (hsent _ hx).1, ?_, ?_⟩
  · rintro ⟨x, hx, hnot⟩
    exact fails ⟨x, hx, fun h => hnot ((hsent x hx).1 h)⟩
  · intro hall
    obtain ⟨hsentAll, houtcome⟩ := complete fun x hx => (hsent x hx).2 (hall x hx)
    exact ⟨hsentAll, hpost _ _ houtcome⟩

/-- If the last request has a reply that is of use, all of them have. -/
theorem Orderly.useful_of_last {useful : Exchange → Prop} {exchanges : List Exchange} {outcome : Outcome α}
    {x : Exchange} {front : List Request} (h : Orderly useful requests post exchanges outcome)
    (hrequests : requests = front ++ [x.request]) (hlast : x.request ∉ front) (hx : x ∈ exchanges)
    (huseful : useful x) : ∀ y ∈ exchanges, useful y := by
  obtain ⟨before, after, rfl⟩ := List.append_of_mem hx
  have horder := h.inOrder
  rw [hrequests] at horder
  have hafter : after = [] := by
    have hlength : before.length + (after.length + 1) ≤ front.length + 1 := by simpa using horder.length_le
    have hplace : (front ++ [x.request])[before.length]? = some x.request := by
      obtain ⟨rest, hrest⟩ := horder
      rw [← hrest]
      simp
    have hbefore : front.length ≤ before.length := by
      by_contra hlt
      rw [List.getElem?_append_left (by omega)] at hplace
      exact hlast (List.mem_of_getElem? hplace)
    exact List.eq_nil_of_length_eq_zero (by omega)
  intro y hy
  rw [hafter] at hy
  rcases List.mem_append.1 hy with hy | hy
  · exact (List.pairwise_append.1 h.stops).2.2 y hy x List.mem_cons_self
  · rwa [List.mem_singleton.1 hy]

/-- Where the first row is read, an error of it ends the query. -/
theorem first_bind_of_error {ρ β : Type} {read : ρ → Except Error β} {rows : List ρ} {error : Error}
    (h : Fetch.one.error? read rows = some error) {f : ρ → Query α}
    (hf : ∀ row, read row = .error error → (f row).run = .done (.error (.ofDatabase context error))) :
    (first context rows >>= f).run = .done (.error (.ofDatabase context error)) := by
  cases rows with
  | nil =>
    cases h
    rfl
  | cons row rows => exact hf row (errorOf?_eq_some_iff.1 h)

end Query

end ResourceCatalog.Database
