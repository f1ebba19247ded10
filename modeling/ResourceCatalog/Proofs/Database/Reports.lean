import ResourceCatalog.Catalog
import ResourceCatalog.Proofs.Database.Course
import ResourceCatalog.Proofs.Database.Failures
import ResourceCatalog.Proofs.Database.Transaction
import ResourceCatalog.Proofs.Resource.Sorting
import ResourceCatalog.Proofs.Store.Save

/-!
# Reported errors

What an operation of the database comes to, whatever the database replies. If what it is given is refused it sends
nothing. Otherwise it reports the first statement that fails, by the kind of its error, and it succeeds only if none
does.
-/

namespace ResourceCatalog.Database

/-! ## Kinds of errors -/

/-- The kind of failure that an error is reported as. -/
structure Error.ReportedAs (error : Error) (kind : Failure.Kind) : Prop where
  conflict_iff : kind = .conflict ↔ ∃ detail, error = .database detail .unique
  notFound_iff : kind = .notFound ↔ error = .rowNotFound
  storeUnavailable_iff : kind = .storeUnavailable ↔
    ¬(∃ detail, error = .database detail .unique) ∧ error ≠ .rowNotFound

theorem Error.reportedAs_ofDatabase (context : String) (error : Error) :
    error.ReportedAs (Failure.ofDatabase context error).kind := by
  unfold Failure.ofDatabase
  split
  · exact ⟨iff_of_true rfl ⟨_, rfl⟩, iff_of_false nofun nofun, iff_of_false nofun fun h => h.1 ⟨_, rfl⟩⟩
  · exact ⟨iff_of_false nofun nofun, iff_of_true rfl rfl, iff_of_false nofun fun h => h.2 rfl⟩
  · rename_i hunique hmissing
    have hother : ¬∃ detail, error = .database detail .unique := not_exists.2 hunique
    exact ⟨iff_of_false nofun hother, iff_of_false nofun hmissing, iff_of_true rfl ⟨hother, hmissing⟩⟩

/-! ## Operations -/

/-- An operation on resources with its arguments. -/
inductive Operation : Type → Type
  | find (id : ResourceId) : Operation Resource
  | exists (id : ResourceId) : Operation Bool
  | save (r : Resource) : Operation Resource
  | remove (id : ResourceId) : Operation Bool
  | list (scope : ListScope) (tenant : TenantId) (link : PageLink) : Operation (PageData Resource)

def findStatement (id : ResourceId) : Statement := ⟨findSql, [.uuid id.uuid]⟩

def existsStatement (id : ResourceId) : Statement := ⟨existsSql, [.uuid id.uuid]⟩

def saveStatement (r : Resource) : Statement := ⟨saveSql, saveParams r⟩

def removeStatement (id : ResourceId) : Statement := ⟨removeSql, [.uuid id.uuid]⟩

namespace Operation

variable {α : Type}

def query : {α : Type} → Operation α → Query α
  | _, .find id => catalog.find id
  | _, .exists id => catalog.exists? id
  | _, .save r => catalog.save r
  | _, .remove id => catalog.remove id
  | _, .list scope tenant link => catalog.list scope tenant link

/-- What the operation is given is refused. -/
def Refused : {α : Type} → Operation α → Prop
  | _, .save r => r.check ≠ .ok ()
  | _, .list _ _ link => link.Unsortable
  | _, .find _ | _, .exists _ | _, .remove _ => False

/-- How many rows of the table the operation fetches. -/
def fetch : {α : Type} → Operation α → Fetch
  | _, .find _ => .optional
  | _, .list _ _ _ => .all
  | _, .exists _ | _, .save _ | _, .remove _ => .one

/-- What the operation asks for, in order, if it is not refused. -/
def requests : {α : Type} → Operation α → List Request
  | _, .find id => [.acquire, .rows (findStatement id)]
  | _, .exists id => [.acquire, .truths (existsStatement id)]
  | _, .save r => [.acquire, .rows (saveStatement r)]
  | _, .remove id => [.acquire, .command (removeStatement id)]
  | _, .list scope tenant link =>
    match ResourceOrdering.ofLink link with
    | .ok o => .acquire :: listSteps scope tenant link o
    | .error _ => []

/-- The exchanges of an operation that needs one statement, which was answered. -/
def answered (r : Request) (reply : r.Reply) : List Exchange := [⟨.acquire, .ok ()⟩, ⟨r, .ok reply⟩]

/-- What an operation comes to if all its requests succeed. -/
def Concluded : {α : Type} → Operation α → List Exchange → Outcome α → Prop
  | _, .find id, exchanges, outcome => ∃ rows, exchanges = answered (.rows (findStatement id)) rows ∧
    match rows with
    | row :: _ => ∃ r, row.resource = .ok r ∧ outcome = .ok r
    | [] => outcome = .error (Store.notFound id)
  | _, .exists id, exchanges, outcome => ∃ b more,
    exchanges = answered (.truths (existsStatement id)) (some b :: more) ∧ outcome = .ok b
  | _, .save r, exchanges, outcome => ∃ row more stored,
    exchanges = answered (.rows (saveStatement r)) (row :: more) ∧ row.resource = .ok stored ∧ outcome = .ok stored
  | _, .remove id, exchanges, outcome => ∃ affected,
    exchanges = answered (.command (removeStatement id)) affected ∧ outcome = .ok (decide (0 < affected))
  | _, .list scope tenant link, exchanges, outcome => ∃ o,
    ResourceOrdering.ofLink link = .ok o ∧ Concludes scope tenant link o exchanges outcome

end Operation

/-! ## The course of an operation -/

namespace Query

open Operation (Concluded)

theorem find_course (id : ResourceId) :
    Course .optional [.acquire, .rows (findStatement id)] (Concluded (.find id)) (find id) := by
  rw [find, onPool_bind]
  refine .request_of_ok (fun _ => rfl) fun _ => .request (fun rows error herror => ?_) fun rows hrows => ?_
  · match rows with
    | [] => cases herror
    | row :: more =>
      show ∃ context, (decoded _ row.resource).run = _
      rw [errorOf?_eq_some_iff.1 herror]
      exact ⟨_, rfl⟩
  · match rows with
    | [] => exact .done rfl ⟨[], rfl, rfl⟩
    | row :: more =>
      obtain ⟨r, hread⟩ := errorOf?_eq_none_iff.1 hrows
      show Course _ _ _ (decoded _ row.resource)
      rw [hread]
      exact .done rfl ⟨row :: more, rfl, r, hread, rfl⟩

theorem exists_course (id : ResourceId) :
    Course .one [.acquire, .truths (existsStatement id)] (Concluded (.exists id)) (exists? id) := by
  rw [exists?, onPool_bind]
  refine .request_of_ok (fun _ => rfl) fun _ => .request (fun rows error herror => ?_) fun rows hrows => ?_
  · exact ⟨_, first_bind_of_error herror fun row hrow => by rw [hrow]; rfl⟩
  · match rows with
    | [] | none :: _ => cases hrows
    | some b :: more => exact .done rfl ⟨b, more, rfl, rfl⟩

theorem save_course {r : Resource} (h : r.check = .ok ()) :
    Course .one [.acquire, .rows (saveStatement r)] (Concluded (.save r)) (save r) := by
  rw [save, h]
  show Course _ _ _ (onPool _ _ >>= _)
  rw [onPool_bind]
  refine .request_of_ok (fun _ => rfl) fun _ => .request (fun rows error herror => ?_) fun rows hrows => ?_
  · exact ⟨_, first_bind_of_error herror fun row hrow => by rw [hrow]; rfl⟩
  · match rows with
    | [] => cases hrows
    | row :: more =>
      obtain ⟨r', hread⟩ := errorOf?_eq_none_iff.1 hrows
      rw [first_cons_bind, hread]
      exact .done rfl ⟨row, more, r', rfl, hread, rfl⟩

theorem remove_course (id : ResourceId) :
    Course .one [.acquire, .command (removeStatement id)] (Concluded (.remove id)) (remove id) := by
  rw [remove, onPool_bind]
  refine .request_of_ok (fun _ => rfl) fun _ => .request_of_ok (fun _ => rfl) fun affected => ?_
  exact .done rfl ⟨affected, rfl, rfl⟩

variable {scope : ListScope} {tenant : TenantId} {link : PageLink} {o : ResourceOrdering}

/-- A step of a list succeeds if it has no error. -/
theorem succeeded_iff {x : Exchange} (hx : x.request ∈ .acquire :: listSteps scope tenant link o) :
    x.Succeeded ↔ x.error? .all = none := by
  obtain ⟨request, reply⟩ := x
  cases reply with
  | error e => exact iff_of_false (Exchange.not_succeeded_error request e) nofun
  | ok reply =>
    cases request with
    | acquire => exact iff_of_true .acquire rfl
    | command s => exact iff_of_true (.command s reply) rfl
    | numbers s =>
      match reply with
      | [] | none :: _ => exact iff_of_false nofun nofun
      | some n :: more => exact iff_of_true (.numbers s n more) rfl
    | rows s =>
      refine Iff.trans ?_ errorOf?_eq_none_iff.symm
      constructor
      · intro h
        cases h with
        | rows _ hread => exact ⟨_, mapM_resource_eq_ok_iff.2 hread⟩
      · rintro ⟨rs, hread⟩
        exact .rows s (mapM_resource_eq_ok_iff.1 hread)
    | truths s => simp [listSteps] at hx
    | migrations => simp [listSteps] at hx

theorem list_reports (ho : ResourceOrdering.ofLink link = .ok o) : (list scope tenant link).run.Reports .all := by
  rw [list, resolved_bind ho, onPool_bind]
  refine reports_request_of_ok (fun _ => rfl) fun _ => ?_
  refine reports_request_of_ok (fun _ => rfl) fun _ => ?_
  refine reports_request_of_ok (fun _ => rfl) fun _ => ?_
  refine reports_request (fun counts error herror => ?_) fun counts hcounts => ?_
  · exact ⟨_, first_bind_of_error herror fun row hrow => by rw [hrow]; rfl⟩
  -- The count has a total. Behind it are the rows and the end of the transaction.
  rcases counts with _ | ⟨_ | total, more⟩
  · cases hcounts
  · cases hcounts
  · refine reports_request (fun rows error herror => ?_) fun rows hrows => ?_
    · rw [errorOf?_eq_some_iff.1 herror]
      exact ⟨_, rfl⟩
    · obtain ⟨rs, hread⟩ := errorOf?_eq_none_iff.1 hrows
      rw [hread]
      refine reports_request_of_ok (fun _ => rfl) fun _ => ?_
      by_cases hneg : total < 0
      · rw [if_pos hneg]
        exact trivial
      · rw [if_neg hneg]
        exact trivial

theorem list_course (ho : ResourceOrdering.ofLink link = .ok o) :
    Course .all (.acquire :: listSteps scope tenant link o) (Concluded (.list scope tenant link))
      (list scope tenant link) :=
  ⟨(list_keepsTo ho).imp (fun _ hx => succeeded_iff hx) fun _ _ h => ⟨o, ho, h⟩, list_reports ho⟩

end Query

namespace Operation

variable {α σ : Type} {op : Operation α}

theorem course (h : ¬op.Refused) : op.query.Course op.fetch op.requests op.Concluded := by
  cases op with
  | find id => exact Query.find_course id
  | «exists» id => exact Query.exists_course id
  | save r => exact Query.save_course (not_not.1 h)
  | remove id => exact Query.remove_course id
  | list scope tenant link =>
    cases ho : ResourceOrdering.ofLink link with
    | error e => exact absurd (ResourceOrdering.exists_ofLink_eq_error_iff.1 ⟨e, ho⟩) h
    | ok o =>
      rw [requests, ho]
      exact Query.list_course ho

theorem run_of_refused (h : op.Refused) : ∃ f, op.query.run = .done (.error f) ∧ f.kind = .validation := by
  cases op with
  | find _ | «exists» _ | remove _ => exact h.elim
  | save r =>
    cases hcheck : r.check with
    | ok u => exact absurd hcheck h
    | error f =>
      refine ⟨f, ?_, Resource.kind_of_check_eq_error hcheck⟩
      show (Database.save r).run = _
      rw [Database.save, hcheck, Query.ofOutcome_error_bind]
  | list scope tenant link =>
    obtain ⟨f, ho⟩ := ResourceOrdering.exists_ofLink_eq_error_iff.2 h
    refine ⟨f, ?_, ResourceOrdering.kind_of_ofLink_eq_error ho⟩
    show (Database.list scope tenant link).run = _
    rw [Database.list, ho, Query.ofOutcome_error_bind]

/-- Nothing of what an operation is given is refused once all its requests have succeeded. -/
theorem Concluded.kind_ne_validation {exchanges : List Exchange} {f : Failure}
    (h : op.Concluded exchanges (.error f)) : f.kind ≠ .validation := by
  cases op with
  | find id =>
    obtain ⟨rows, -, hrows⟩ := h
    match rows with
    | row :: _ =>
      obtain ⟨r, -, hf⟩ := hrows
      cases hf
    | [] =>
      cases hrows
      exact nofun
  | «exists» id =>
    obtain ⟨b, more, -, hf⟩ := h
    cases hf
  | save r =>
    obtain ⟨row, more, stored, -, -, hf⟩ := h
    cases hf
  | remove id =>
    obtain ⟨affected, -, hf⟩ := h
    cases hf
  | list scope tenant link =>
    obtain ⟨o, -, total, rows, rs, -, -, hf⟩ := h
    unfold Database.concluded at hf
    split at hf
    · cases hf
      exact nofun
    · cases hf

/-- What an operation sends and answers, whatever the replies are. -/
structure Reported (op : Operation α) (exchanges : List Exchange) (outcome : Outcome α) : Prop where
  validation_iff : (∃ f, outcome = .error f ∧ f.kind = .validation) ↔ op.Refused
  silent : op.Refused → exchanges = []
  failed : ∀ x ∈ exchanges, ∀ error, x.error? op.fetch = some error →
    ∃ f, outcome = .error f ∧ f.source = some (.database error) ∧ error.ReportedAs f.kind
  ok : ∀ a, outcome = .ok a →
    exchanges.map Exchange.request = op.requests ∧ ∀ x ∈ exchanges, x.error? op.fetch = none
  concluded : ¬op.Refused → (∀ x ∈ exchanges, x.error? op.fetch = none) → op.Concluded exchanges outcome

theorem reported_of_refused (h : op.Refused) (answer : σ → (request : Request) → Except Error request.Reply × σ)
    (c : σ) : op.Reported (Program.exchanges answer c op.query.run) (Program.run answer c op.query.run).1 := by
  obtain ⟨f, hrun, hkind⟩ := run_of_refused h
  rw [hrun]
  exact ⟨iff_of_true ⟨f, rfl, hkind⟩ h, fun _ => rfl, nofun, nofun, absurd h⟩

theorem reported_of_course (h : ¬op.Refused) (answer : σ → (request : Request) → Except Error request.Reply × σ)
    (c : σ) : op.Reported (Program.exchanges answer c op.query.run) (Program.run answer c op.query.run).1 := by
  have horderly := (course h).keepsTo σ answer c
  have hreports := (course h).reports
  have hconcluded := fun hnone => (horderly.complete hnone).2
  refine ⟨iff_of_false ?_ h, fun h' => absurd h' h, ?_, ?_, fun _ => hconcluded⟩
  · rintro ⟨f, hf, hkind⟩
    by_cases hnone : ∀ x ∈ Program.exchanges answer c op.query.run, x.error? op.fetch = none
    · exact (hf ▸ hconcluded hnone).kind_ne_validation hkind
    · obtain ⟨x, hx, hfails⟩ := not_forall₂.1 hnone
      obtain ⟨error, herror⟩ := Option.ne_none_iff_exists'.1 hfails
      obtain ⟨context, hrun⟩ := hreports.run answer c hx herror
      rw [hrun] at hf
      cases hf
      exact kind_ofDatabase_ne_validation context error hkind
  · intro x hx error herror
    obtain ⟨context, hrun⟩ := hreports.run answer c hx herror
    exact ⟨_, hrun, rfl, error.reportedAs_ofDatabase context⟩
  · intro a ha
    have hnone := horderly.useful_of_eq_ok ha
    exact ⟨(horderly.complete hnone).1, hnone⟩

end Operation

variable {σ : Type} {answer : σ → (request : Request) → Except Error request.Reply × σ} {c : σ} {id : ResourceId}

theorem Operation.reported {α : Type} (op : Operation α)
    (answer : σ → (request : Request) → Except Error request.Reply × σ) (c : σ) :
    op.Reported (Program.exchanges answer c op.query.run) (Program.run answer c op.query.run).1 := by
  by_cases h : op.Refused
  · exact reported_of_refused h answer c
  · exact reported_of_course h answer c

/-- A reply without rows is an answer too. -/
theorem find_of_no_row
    (h : ⟨.rows (findStatement id), .ok []⟩ ∈ Program.exchanges answer c (Database.find id).run) :
    (Program.run answer c (Database.find id).run).1 = .error (Store.notFound id) := by
  have horderly := (Query.find_course id).keepsTo σ answer c
  have hrequests : [.acquire, .rows (findStatement id)] = [Request.acquire] ++ [.rows (findStatement id)] := rfl
  have hnone : Exchange.error? .optional ⟨.rows (findStatement id), .ok []⟩ = none := rfl
  obtain ⟨-, rows, hexchanges, houtcome⟩ := horderly.complete (horderly.useful_of_last hrequests (by simp) h hnone)
  rw [hexchanges, Operation.answered, List.mem_cons, List.mem_singleton] at h
  rcases h with h | h
  · cases h
  · cases h
    exact houtcome

theorem remove_eq_ok {removed : Bool} (h : (Program.run answer c (Database.remove id).run).1 = .ok removed) :
    ∃ affected, ⟨.command (removeStatement id), .ok affected⟩ ∈ Program.exchanges answer c (Database.remove id).run ∧
      (removed = true ↔ 0 < affected) := by
  have hreported := (Operation.remove id).reported answer c
  obtain ⟨affected, hexchanges, houtcome⟩ := hreported.concluded not_false (hreported.ok removed h).2
  refine ⟨affected, ?_, ?_⟩
  · show _ ∈ Program.exchanges answer c (Operation.remove id).query.run
    rw [hexchanges]
    exact List.mem_of_getElem? (i := 1) rfl
  · rw [Except.ok.inj (h.symm.trans houtcome), decide_eq_true_iff]

/-- Errors of the database are neither lost nor taken for others. -/
theorem errors_are_reported {σ : Type} (answer : σ → (request : Request) → Except Error request.Reply × σ) (c : σ) :
    (∀ {α : Type} (op : Operation α),
      op.Reported (Program.exchanges answer c op.query.run) (Program.run answer c op.query.run).1) ∧
    (∀ id : ResourceId, ⟨.rows (findStatement id), .ok []⟩ ∈ Program.exchanges answer c (catalog.find id).run →
      ∃ f, (Program.run answer c (catalog.find id).run).1 = .error f ∧ f.kind = .notFound) ∧
    ∀ (id : ResourceId) (removed : Bool), (Program.run answer c (catalog.remove id).run).1 = .ok removed →
      ∃ affected, ⟨.command (removeStatement id), .ok affected⟩ ∈ Program.exchanges answer c (catalog.remove id).run ∧
        (removed = true ↔ 0 < affected) :=
  ⟨fun op => op.reported answer c, fun _ h => ⟨_, find_of_no_row h, rfl⟩, fun _ _ => remove_eq_ok⟩

/-! ## A sample -/

/-- A database that takes no row for a new one. -/
def refusesRows (_ : Unit) : (request : Request) → Except Error request.Reply × Unit
  | .acquire => (.ok (), ())
  | .command _ => (.ok 0, ())
  | .numbers _ => (.ok [some 0], ())
  | .truths _ => (.ok [some false], ())
  | .rows _ => (.error (.database "duplicate key value violates unique constraint" .unique), ())
  | .migrations => (.ok ⟨none, []⟩, ())

/-- The refused row is a conflict, with the error of the database as its cause. -/
theorem errors_are_reported_sample :
    ∃ f, (Program.run refusesRows () (catalog.save (Store.sampleRow 5 7 "New" "n")).run).1 = .error f ∧
      f.source = some (.database (.database "duplicate key value violates unique constraint" .unique)) ∧
      f.kind = .conflict := by
  have hrefused : ⟨.rows (saveStatement (Store.sampleRow 5 7 "New" "n")),
      .error (.database "duplicate key value violates unique constraint" .unique)⟩ ∈
      Program.exchanges refusesRows () (catalog.save (Store.sampleRow 5 7 "New" "n")).run :=
    List.mem_of_getElem? (i := 1) (by rfl)
  have hreported := (errors_are_reported refusesRows ()).1 (.save (Store.sampleRow 5 7 "New" "n"))
  obtain ⟨f, hf, hsource, hkind⟩ := hreported.failed _ hrefused _ rfl
  exact ⟨f, hf, hsource, hkind.conflict_iff.2 ⟨_, rfl⟩⟩

end ResourceCatalog.Database
