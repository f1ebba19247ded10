import ResourceCatalog.Proofs.Database.Exchanges

/-!
# The transaction of a list

A list is read in one transaction of five statements. Whatever the database replies, they are sent in this order and
none of them behind a step that failed. The answer is a page just if all of them succeeded and the total is not
negative, and the page then has the total and the rows of the replies.
-/

namespace ResourceCatalog.Database

variable {σ : Type} {scope : ListScope} {tenant : TenantId} {link : PageLink} {o : ResourceOrdering}

def beginning : Statement := ⟨"BEGIN", []⟩

def isolation : Statement := ⟨"SET TRANSACTION ISOLATION LEVEL REPEATABLE READ, READ ONLY", []⟩

def commit : Statement := ⟨"COMMIT", []⟩

/-- The steps of a list on its connection. -/
def listSteps (scope : ListScope) (tenant : TenantId) (link : PageLink) (o : ResourceOrdering) : List Request :=
  [.command beginning, .command isolation, .numbers (countStatement scope tenant link),
    .rows (pageStatement scope tenant o link), .command commit]

/-- The statements of a list. -/
def listStatements (scope : ListScope) (tenant : TenantId) (link : PageLink) (o : ResourceOrdering) : List Statement :=
  [beginning, isolation, countStatement scope tenant link, pageStatement scope tenant o link, commit]

theorem nodup_listStatements (scope : ListScope) (tenant : TenantId) (link : PageLink) (o : ResourceOrdering) :
    (listStatements scope tenant link o).Nodup := by
  have hcount : (countStatement scope tenant link).params ≠ [] := by
    show scopeParams scope tenant ++ _ ≠ []
    cases scope <;> exact List.cons_ne_nil _ _
  have hpage : (pageStatement scope tenant o link).params ≠ [] := List.append_ne_nil_of_left_ne_nil hcount _
  have hlength : (pageStatement scope tenant o link).params.length =
      (countStatement scope tenant link).params.length + 2 := List.length_append
  -- Only the two queries have parameters, and the page has more of them than the count.
  have hnone {s t : Statement} (hs : s.params = []) (ht : t.params ≠ []) : s ≠ t := by
    rintro rfl
    exact ht hs
  have hqueries : countStatement scope tenant link ≠ pageStatement scope tenant o link := by
    intro h
    rw [h] at hlength
    omega
  simp only [listStatements, List.nodup_cons, List.mem_cons, List.not_mem_nil, or_false, not_or]
  exact ⟨⟨by decide, hnone rfl hcount, hnone rfl hpage, by decide⟩, ⟨hnone rfl hcount, hnone rfl hpage, by decide⟩,
    ⟨hqueries, (hnone rfl hcount).symm⟩, (hnone rfl hpage).symm, not_false, .nil⟩

/-! ## Steps that succeed -/

/-- The reply is no error, and what the step is for can be read from it. -/
inductive Exchange.Succeeded : Exchange → Prop
  | acquire : Succeeded ⟨.acquire, .ok ()⟩
  | command (s : Statement) (affected : Nat) : Succeeded ⟨.command s, .ok affected⟩
  | numbers (s : Statement) (n : Int) (more : List (Option Int)) : Succeeded ⟨.numbers s, .ok (some n :: more)⟩
  | rows (s : Statement) {rows : List Row} {rs : List Resource}
      (h : List.Forall₂ (fun row r => row.resource = .ok r) rows rs) : Succeeded ⟨.rows s, .ok rows⟩

theorem Exchange.not_succeeded_error (r : Request) (e : Error) : ¬Exchange.Succeeded ⟨r, .error e⟩ := by
  intro h
  cases h

/-- The exchanges of a list whose steps were all answered, with the total and the rows of the replies. -/
def Completed (scope : ListScope) (tenant : TenantId) (link : PageLink) (o : ResourceOrdering)
    (exchanges : List Exchange) (total : Int) (rows : List Row) : Prop :=
  ∃ began isolated more ended, exchanges =
    [⟨.acquire, .ok ()⟩, ⟨.command beginning, .ok began⟩, ⟨.command isolation, .ok isolated⟩,
      ⟨.numbers (countStatement scope tenant link), .ok (some total :: more)⟩,
      ⟨.rows (pageStatement scope tenant o link), .ok rows⟩, ⟨.command commit, .ok ended⟩]

theorem Completed.unique {es : List Exchange} {total total' : Int} {rows rows' : List Row}
    (h : Completed scope tenant link o es total rows) (h' : Completed scope tenant link o es total' rows') :
    total = total' ∧ rows = rows' := by
  obtain ⟨_, _, _, _, rfl⟩ := h
  obtain ⟨_, _, _, _, h'⟩ := h'
  cases h'
  exact ⟨rfl, rfl⟩

theorem Completed.succeeded {es : List Exchange} {total : Int} {rows : List Row}
    (h : Completed scope tenant link o es total rows) (hstops : es.Pairwise fun x _ => x.Succeeded) :
    ∀ x ∈ es, x.Succeeded := by
  obtain ⟨began, isolated, more, ended, rfl⟩ := h
  -- The end of the transaction was asked for behind the rows, so these could be read.
  have hrows : Exchange.Succeeded ⟨.rows (pageStatement scope tenant o link), .ok rows⟩ :=
    List.pairwise_iff_getElem.1 hstops 4 5 (by simp) (by simp) (by simp)
  simp only [List.forall_mem_cons]
  exact ⟨.acquire, .command _ _, .command _ _, .numbers _ _ _, hrows, .command _ _, nofun⟩

/-! ## The course of a list -/

/-- The answer to a list once its transaction has ended. -/
def concluded (link : PageLink) (total : Int) (rs : List Resource) : Outcome (PageData Resource) :=
  if total < 0 then .error (.internal s!"Resource count is negative: {total}") else .ok (.ofLink rs total.toNat link)

/-- All steps were answered, and the outcome is what the total and the rows of the replies make. -/
def Concludes (scope : ListScope) (tenant : TenantId) (link : PageLink) (o : ResourceOrdering)
    (exchanges : List Exchange) (outcome : Outcome (PageData Resource)) : Prop :=
  ∃ total rows rs, Completed scope tenant link o exchanges total rows ∧
    List.Forall₂ (fun row r => row.resource = .ok r) rows rs ∧ outcome = concluded link total rs

theorem list_keepsTo (ho : ResourceOrdering.ofLink link = .ok o) :
    Query.KeepsTo Exchange.Succeeded (.acquire :: listSteps scope tenant link o) (Concludes scope tenant link o)
      (list scope tenant link) := by
  have herror := Exchange.not_succeeded_error
  have hcommand (s : Statement) (affected : Nat) : Exchange.Succeeded ⟨.command s, .ok affected⟩ := .command s affected
  rw [list, resolved_bind ho, Query.onPool_bind]
  refine Query.KeepsTo.request_of_ok (herror _) (fun _ => .acquire) fun _ => ?_
  refine Query.KeepsTo.request_of_ok (herror _) (hcommand _) fun _ => ?_
  refine Query.KeepsTo.request_of_ok (herror _) (hcommand _) fun _ => ?_
  -- The count: a reply without a row fails like one whose first row is null.
  refine Query.KeepsTo.request (herror _) (fun counts hnot => ?_) fun counts hcounts => ?_
  · match counts with
    | [] => exact ⟨_, rfl⟩
    | none :: _ => exact ⟨_, rfl⟩
    | some n :: more => exact absurd (.numbers _ n more) hnot
  cases hcounts with | numbers _ total more
  -- The rows: all of them are read before the transaction ends.
  refine Query.KeepsTo.request (herror _) (fun rows hnot => ?_) fun rows hrows => ?_
  · cases hread : rows.mapM Row.resource with
    | error e => exact ⟨_, rfl⟩
    | ok rs => exact absurd (.rows _ (mapM_resource_eq_ok_iff.1 hread)) hnot
  cases hrows with | rows _ hread
  rw [mapM_resource_eq_ok_iff.2 hread]
  refine Query.KeepsTo.request_of_ok (herror _) (hcommand _) fun _ => ?_
  -- The total is looked at last.
  by_cases hneg : total < 0
  · rw [if_pos hneg]
    exact Query.KeepsTo.done rfl ⟨total, rows, _, ⟨_, _, _, _, rfl⟩, hread, (if_pos hneg).symm⟩
  · rw [if_neg hneg]
    exact Query.KeepsTo.done rfl ⟨total, rows, _, ⟨_, _, _, _, rfl⟩, hread, (if_neg hneg).symm⟩

/-- What a list sends and answers. -/
structure Transacts (scope : ListScope) (tenant : TenantId) (link : PageLink) (o : ResourceOrdering)
    (exchanges : List Exchange) (outcome : Outcome (PageData Resource)) : Prop where
  inOrder : statements exchanges <+: listStatements scope tenant link o
  once : (statements exchanges).Nodup
  /-- A step that has another one behind it succeeded. -/
  stops : exchanges.Pairwise fun x _ => x.Succeeded
  fails : (∃ x ∈ exchanges, ¬x.Succeeded) → ∃ e, outcome = .error e
  ok_iff : ∀ p, outcome = .ok p ↔ ∃ total rows, Completed scope tenant link o exchanges total rows ∧
    List.Forall₂ (fun row r => row.resource = .ok r) rows p.data ∧ p.totalElements = total ∧
    p = .ofLink p.data p.totalElements link
  negative : ∀ total rows, Completed scope tenant link o exchanges total rows → total < 0 →
    outcome = .error (.internal s!"Resource count is negative: {total}")

theorem concluded_eq_ok_iff {total : Int} {rs : List Resource} {p : PageData Resource} :
    concluded link total rs = .ok p ↔ p.totalElements = total ∧ p = .ofLink rs p.totalElements link := by
  unfold concluded
  split
  · constructor
    · intro h
      cases h
    · intro h
      omega
  · constructor
    · intro h
      cases h
      exact ⟨Int.toNat_of_nonneg (by omega), rfl⟩
    · rintro ⟨htotal, hp⟩
      rw [← htotal, Int.toNat_natCast, ← hp]

theorem transacts_of_orderly {es : List Exchange} {outcome : Outcome (PageData Resource)}
    (h : Query.Orderly Exchange.Succeeded (.acquire :: listSteps scope tenant link o)
      (Concludes scope tenant link o) es outcome) :
    Transacts scope tenant link o es outcome := by
  have hsent : statements es <+: listStatements scope tenant link o := h.statements_isPrefix
  -- The total and the rows of the replies decide the outcome.
  have hconcluded {total : Int} {rows : List Row} (hes : Completed scope tenant link o es total rows) :
      ∃ rs, List.Forall₂ (fun row r => row.resource = .ok r) rows rs ∧ outcome = concluded link total rs := by
    obtain ⟨-, total', rows', rs, hes', hread, houtcome⟩ := h.complete (hes.succeeded h.stops)
    obtain ⟨rfl, rfl⟩ := hes.unique hes'
    exact ⟨rs, hread, houtcome⟩
  refine ⟨hsent, hsent.sublist.nodup (nodup_listStatements scope tenant link o), h.stops, h.fails,
    fun p => ⟨fun hp => ?_, ?_⟩, ?_⟩
  · obtain ⟨-, total, rows, rs, hes, hread, houtcome⟩ := h.complete (h.useful_of_eq_ok hp)
    obtain ⟨htotal, hpage⟩ := concluded_eq_ok_iff.1 (houtcome.symm.trans hp)
    have hdata : p.data = rs := congrArg PageData.data hpage
    rw [← hdata] at hread hpage
    exact ⟨total, rows, hes, hread, htotal, hpage⟩
  · rintro ⟨total, rows, hes, hread, htotal, hpage⟩
    obtain ⟨rs, hread', houtcome⟩ := hconcluded hes
    have hdata : p.data = rs :=
      Except.ok.inj ((mapM_resource_eq_ok_iff.2 hread).symm.trans (mapM_resource_eq_ok_iff.2 hread'))
    rw [houtcome, concluded_eq_ok_iff, ← hdata]
    exact ⟨htotal, hpage⟩
  · intro total rows hes hneg
    obtain ⟨rs, -, houtcome⟩ := hconcluded hes
    rw [houtcome, concluded, if_pos hneg]

/-- A list whose sort property does not resolve asks for nothing. Every other one keeps to its transaction, whatever
the database replies. -/
theorem list_transacts (answer : σ → (request : Request) → Except Error request.Reply × σ) (c : σ)
    (scope : ListScope) (tenant : TenantId) (link : PageLink) :
    (∀ e, ResourceOrdering.ofLink link = .error e →
      Program.exchanges answer c (list scope tenant link).run = [] ∧
        (Program.run answer c (list scope tenant link).run).1 = .error e) ∧
    ∀ o, ResourceOrdering.ofLink link = .ok o →
      Transacts scope tenant link o (Program.exchanges answer c (list scope tenant link).run)
        (Program.run answer c (list scope tenant link).run).1 := by
  constructor
  · intro e he
    have hrun : (list scope tenant link).run = .done (.error e) := by
      rw [list, he, Query.ofOutcome_error_bind]
    rw [hrun]
    exact ⟨rfl, rfl⟩
  · intro o ho
    exact transacts_of_orderly (list_keepsTo ho σ answer c)

/-! ## A sample -/

/-- A database with one row of the system tenant, which loses the connection when a transaction ends. -/
def lostAtCommit (_ : Unit) : (request : Request) → Except Error request.Reply × Unit
  | .acquire => (.ok (), ())
  | .command s => (if s = commit then .error (.io "connection reset") else .ok 0, ())
  | .numbers _ => (.ok [some 1], ())
  | .truths _ => (.ok [], ())
  | .rows _ => (.ok [{ id := some TenantId.system.uuid, createdAt := some 0, tenantId := some TenantId.system.uuid,
                       title := some "Store", resourceType := some "JKS", resourceKey := some "a" }], ())
  | .migrations => (.ok ⟨none, []⟩, ())

def byTitle : PageLink :=
  { pageSize := 50, page := 0, sortOrder := some ⟨"title", .desc⟩, pageSize_mem := by decide,
    page_le := Nat.zero_le maxPage }

/-- All five statements are sent and the row is read, but the list fails. -/
theorem list_transacts_sample :
    ResourceOrdering.ofLink byTitle = .ok ⟨.title, .desc⟩ ∧
      statements (Program.exchanges lostAtCommit () (list .visible .system byTitle).run) =
        listStatements .visible .system byTitle ⟨.title, .desc⟩ ∧
      ∃ e, (Program.run lostAtCommit () (list .visible .system byTitle).run).1 = .error e := by
  have horder : ResourceOrdering.ofLink byTitle = .ok ⟨.title, .desc⟩ := by rfl
  have htransacts := (list_transacts lostAtCommit () .visible .system byTitle).2 _ horder
  have hlost : ⟨.command commit, .error (.io "connection reset")⟩ ∈
      Program.exchanges lostAtCommit () (list .visible .system byTitle).run :=
    List.mem_of_getElem? (i := 5) (by rfl)
  exact ⟨horder, by rfl, htransacts.fails ⟨_, hlost, Exchange.not_succeeded_error _ _⟩⟩

end ResourceCatalog.Database
