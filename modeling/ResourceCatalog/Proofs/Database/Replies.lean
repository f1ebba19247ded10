import Mathlib.Data.List.Forall2
import ResourceCatalog.Database.Repository
import ResourceCatalog.Proofs.Page.Link

/-!
# Programs by their replies

What a program does next depends on the reply to its last request only: a reply that can be used lets it go on,
and an error ends it with the failure of what was being done.
-/

namespace ResourceCatalog.Database

variable {σ α β : Type}

namespace Program

theorem bind_done (p : Program α) : p.bind done = p := by
  induction p with
  | done a => rfl
  | ask request next ih => exact congrArg (ask request) (funext ih)

theorem bind_bind {γ : Type} (p : Program α) (f : α → Program β) (g : β → Program γ) :
    (p.bind f).bind g = p.bind fun a => (f a).bind g := by
  induction p with
  | done a => rfl
  | ask request next ih => exact congrArg (ask request) (funext ih)

instance : LawfulMonad Program := LawfulMonad.mk' Program bind_done (fun _ _ => rfl) bind_bind

end Program

namespace Query

variable {answer : σ → (request : Request) → Except Error request.Reply × σ} {c : σ} {context : String} {r : Request}

theorem run_request_bind (f : r.Reply → Query α) :
    Program.run answer c (request context r >>= f).run =
      match (answer c r).1 with
      | .ok reply => Program.run answer (answer c r).2 (f reply).run
      | .error e => (.error (Failure.ofDatabase context e), (answer c r).2) := by
  show Program.run answer (answer c r).2 (ExceptT.bindCont f ((answer c r).1.mapError _)) = _
  cases (answer c r).1 <;> rfl

theorem run_request_bind_of_ok {reply : r.Reply} (h : (answer c r).1 = .ok reply) (f : r.Reply → Query α) :
    Program.run answer c (request context r >>= f).run = Program.run answer (answer c r).2 (f reply).run := by
  rw [run_request_bind, h]

theorem onPool_bind (f : r.Reply → Query α) :
    onPool context r >>= f = request context .acquire >>= fun _ => request context r >>= f :=
  bind_assoc (request context .acquire) (fun _ => request context r) f

theorem first_cons_bind (a : α) (rest : List α) (f : α → Query β) : first context (a :: rest) >>= f = f a := rfl

/-- A value that was read lets the program go on. -/
theorem decoded_ok_bind (a : α) (f : α → Query β) : decoded context (.ok a) >>= f = f a := rfl

/-- A refusal ends the program. -/
theorem ofOutcome_error_bind (e : Failure) (f : α → Query β) :
    (ofOutcome (.error e) >>= f).run = .done (.error e) := rfl

end Query

/-! ## Rows and links -/

/-- Rows are read if each of them can be read. -/
theorem mapM_resource_eq_ok_iff {rows : List Row} {rs : List Resource} :
    rows.mapM Row.resource = .ok rs ↔ List.Forall₂ (fun row r => row.resource = .ok r) rows rs := by
  induction rows generalizing rs with
  | nil =>
    rw [List.forall₂_nil_left_iff]
    constructor
    · rintro ⟨⟩
      rfl
    · rintro rfl
      rfl
  | cons row rows ih =>
    rw [List.mapM_cons, List.forall₂_cons_left_iff]
    constructor
    · intro h
      cases hrow : row.resource with
      | error e =>
        rw [hrow] at h
        cases h
      | ok r =>
        cases hrows : rows.mapM Row.resource with
        | error e =>
          rw [hrow, hrows] at h
          cases h
        | ok rest =>
          rw [hrow, hrows] at h
          cases h
          exact ⟨r, rest, rfl, ih.1 hrows, rfl⟩
    · rintro ⟨r, rest, hrow, hrest, rfl⟩
      rw [hrow, ih.2 hrest]
      rfl

/-- The numbers of a link fit. -/
theorem fits_link (link : PageLink) :
    fits "Page size" link.limit = .ok () ∧ fits "Page offset" link.offset = .ok () := by
  have hlt := link.offset_add_limit_lt
  constructor
  · refine if_pos ?_
    show (link.limit : Int) < 0x8000000000000000
    omega
  · refine if_pos ?_
    show (link.offset : Int) < 0x8000000000000000
    omega

/-- A list whose order resolves goes on to ask the database. -/
theorem resolved_bind {link : PageLink} {o : ResourceOrdering} (h : ResourceOrdering.ofLink link = .ok o)
    (f : ResourceOrdering → Query α) :
    (do let o ← Query.ofOutcome (ResourceOrdering.ofLink link)
        Query.ofOutcome (fits "Page size" link.limit)
        Query.ofOutcome (fits "Page offset" link.offset)
        f o) = f o := by
  rw [h, (fits_link link).1, (fits_link link).2]
  rfl

end ResourceCatalog.Database
