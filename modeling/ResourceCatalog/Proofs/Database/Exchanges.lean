import ResourceCatalog.Proofs.Database.Replies

/-!
# Exchanges

The requests of a run with their replies, whatever the database answers. A query that keeps to a list of requests
sends them in order and ends with a failure at the first reply that is of no use to it. Queries are built of requests,
so what they keep to is found request by request.
-/

namespace ResourceCatalog.Database

/-- A request and what it was answered with. -/
structure Exchange where
  request : Request
  reply : Except Error request.Reply

variable {σ α : Type}

/-- The exchanges of a run, in order. -/
def Program.exchanges (answer : σ → (request : Request) → Except Error request.Reply × σ) (c : σ) :
    Program α → List Exchange
  | .done _ => []
  | .ask request next =>
    ⟨request, (answer c request).1⟩ :: (next (answer c request).1).exchanges answer (answer c request).2

/-- The statements of exchanges, in the order in which they were sent. -/
def statements (exchanges : List Exchange) : List Statement :=
  exchanges.filterMap fun x => x.request.statement?

namespace Query

/-- A run that sends `requests` in order. Behind an exchange that is of no use there is no other, and the run fails.
If all are of use, all requests are sent, and exchanges and outcome are as `post` says. -/
structure Orderly (useful : Exchange → Prop) (requests : List Request) (post : List Exchange → Outcome α → Prop)
    (exchanges : List Exchange) (outcome : Outcome α) : Prop where
  inOrder : exchanges.map Exchange.request <+: requests
  stops : exchanges.Pairwise fun x _ => useful x
  fails : (∃ x ∈ exchanges, ¬useful x) → ∃ e, outcome = .error e
  complete : (∀ x ∈ exchanges, useful x) → exchanges.map Exchange.request = requests ∧ post exchanges outcome

/-- Every run of the query is orderly. -/
def KeepsTo (useful : Exchange → Prop) (requests : List Request) (post : List Exchange → Outcome α → Prop)
    (q : Query α) : Prop :=
  ∀ (σ : Type) (answer : σ → (request : Request) → Except Error request.Reply × σ) (c : σ),
    Orderly useful requests post (Program.exchanges answer c q.run) (Program.run answer c q.run).1

variable {answer : σ → (request : Request) → Except Error request.Reply × σ} {c : σ} {context : String} {r : Request}
  {useful : Exchange → Prop} {requests : List Request} {post : List Exchange → Outcome α → Prop}

/-- Whatever the database replies, the query sends these statements in order as far as it goes, and all of them if it
does not fail. -/
def Sends (ss : List Statement) (q : Query α) : Prop :=
  ∀ (σ : Type) (answer : σ → (request : Request) → Except Error request.Reply × σ) (c : σ),
    statements (Program.exchanges answer c q.run) <+: ss ∧
      ∀ a, (Program.run answer c q.run).1 = .ok a → statements (Program.exchanges answer c q.run) = ss

theorem statements_eq_filterMap (es : List Exchange) :
    statements es = (es.map Exchange.request).filterMap Request.statement? := by
  rw [List.filterMap_map]
  rfl

theorem Orderly.statements_isPrefix {es : List Exchange} {outcome : Outcome α}
    (h : Orderly useful requests post es outcome) : statements es <+: requests.filterMap Request.statement? := by
  rw [statements_eq_filterMap]
  exact h.inOrder.filterMap Request.statement?

/-- A run that does not fail has had nothing but replies of use. -/
theorem Orderly.useful_of_eq_ok {es : List Exchange} {outcome : Outcome α} {a : α}
    (h : Orderly useful requests post es outcome) (ha : outcome = .ok a) : ∀ x ∈ es, useful x := by
  intro x hx
  by_contra hnot
  obtain ⟨e, he⟩ := h.fails ⟨x, hx, hnot⟩
  rw [he] at ha
  cases ha

theorem KeepsTo.sends {q : Query α} (h : KeepsTo useful requests post q) :
    Sends (requests.filterMap Request.statement?) q := by
  intro σ answer c
  have horderly := h σ answer c
  refine ⟨horderly.statements_isPrefix, fun a ha => ?_⟩
  rw [statements_eq_filterMap, (horderly.complete (horderly.useful_of_eq_ok ha)).1]

/-! ## What queries keep to -/

theorem exchanges_request_bind (f : r.Reply → Query α) :
    Program.exchanges answer c (request context r >>= f).run =
      ⟨r, (answer c r).1⟩ :: match (answer c r).1 with
        | .ok reply => Program.exchanges answer (answer c r).2 (f reply).run
        | .error _ => [] := by
  show ⟨r, (answer c r).1⟩ ::
    Program.exchanges answer (answer c r).2 (ExceptT.bindCont f ((answer c r).1.mapError _)) = _
  cases (answer c r).1 <;> rfl

theorem KeepsTo.done {q : Query α} {outcome : Outcome α} (h : q.run = .done outcome) (hpost : post [] outcome) :
    KeepsTo useful [] post q := by
  intro σ answer c
  rw [h]
  refine ⟨List.prefix_rfl, .nil, ?_, fun _ => ⟨rfl, hpost⟩⟩
  rintro ⟨x, hx, -⟩
  exact absurd hx List.not_mem_nil

/-- A request of whose replies those that are of use are followed by an orderly run, and the others by nothing. -/
theorem KeepsTo.request {f : r.Reply → Query α} (herror : ∀ e, ¬useful ⟨r, .error e⟩)
    (hstop : ∀ reply, ¬useful ⟨r, .ok reply⟩ → ∃ e, (f reply).run = .done (.error e))
    (hgo : ∀ reply, useful ⟨r, .ok reply⟩ →
      KeepsTo useful requests (fun es => post (⟨r, .ok reply⟩ :: es)) (f reply)) :
    KeepsTo useful (r :: requests) post (Query.request context r >>= f) := by
  intro σ answer c
  rw [exchanges_request_bind, run_request_bind]
  -- An exchange of no use is the last one, be it for an error or for what the reply holds.
  have hlast {x : Exchange} {e : Failure} (hr : x.request = r) (hx : ¬useful x) :
      Orderly useful (r :: requests) post [x] (.error e) := by
    refine ⟨⟨requests, by rw [← hr]; rfl⟩, List.pairwise_singleton _ _, fun _ => ⟨e, rfl⟩, fun h => ?_⟩
    exact absurd (h x List.mem_cons_self) hx
  cases (answer c r).1 with
  | error e => exact hlast rfl (herror e)
  | ok reply =>
    by_cases huseful : useful ⟨r, .ok reply⟩
    · -- The rest is orderly from the state behind this reply, and the exchange goes in front of it.
      have hrest := hgo reply huseful σ answer (answer c r).2
      refine ⟨?_, ?_, ?_, ?_⟩
      · exact (List.prefix_cons_inj r).2 hrest.inOrder
      · exact List.pairwise_cons.2 ⟨fun _ _ => huseful, hrest.stops⟩
      · rintro ⟨x, hx, hnot⟩
        rcases List.mem_cons.1 hx with rfl | hx
        · exact absurd huseful hnot
        · exact hrest.fails ⟨x, hx, hnot⟩
      · intro h
        obtain ⟨hall, hpost⟩ := hrest.complete fun x hx => h x (List.mem_cons_of_mem _ hx)
        exact ⟨congrArg (r :: ·) hall, hpost⟩
    · obtain ⟨e, he⟩ := hstop reply huseful
      simp only [he]
      exact hlast rfl huseful

theorem KeepsTo.request_of_ok {f : r.Reply → Query α} (herror : ∀ e, ¬useful ⟨r, .error e⟩)
    (hok : ∀ reply, useful ⟨r, .ok reply⟩)
    (hgo : ∀ reply, KeepsTo useful requests (fun es => post (⟨r, .ok reply⟩ :: es)) (f reply)) :
    KeepsTo useful (r :: requests) post (Query.request context r >>= f) :=
  KeepsTo.request herror (fun reply h => absurd (hok reply) h) fun reply _ => hgo reply

end Query

end ResourceCatalog.Database
