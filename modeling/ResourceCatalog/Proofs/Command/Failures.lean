import ResourceCatalog.Proofs.Command.ListAll
import ResourceCatalog.Proofs.Page.Numbers
import ResourceCatalog.Proofs.Store.Actions

/-!
# Failures of commands

A command on resources fails in the order in which the operations do that it is carried out with, and it leaves the
store as it is where they do. So a store that could not be reached for a while is afterwards the one from before.
-/

namespace ResourceCatalog.Command

open Store (ActsInOrder FailsInOrder)

variable {s : Store} {a : ListArgs} {link : PageLink} {fresh : Fresh}

/-! ## Lists -/

/-- The page arguments are out of range, or resources cannot be sorted by what is asked for. -/
def ListArgs.Refused (a : ListArgs) : Prop :=
  ¬PageLink.InRange a.pageSize a.page ∨ ∃ name, a.sort = some name ∧ ∀ p, ResourceProperty.parse name ≠ .ok p

theorem ListArgs.link_cases (a : ListArgs) :
    (∃ f, a.link = .error f ∧ f.kind = .validation ∧ a.Refused) ∨
      ∃ link, a.link = .ok link ∧ (link.Unsortable ↔ a.Refused) := by
  by_cases hrange : PageLink.InRange a.pageSize a.page
  · obtain ⟨link, hlink, -, -, -, hsort⟩ := ListArgs.link_eq_ok hrange.1 hrange.2
    refine .inr ⟨link, hlink, ?_⟩
    rw [Refused, PageLink.Unsortable, hsort, or_iff_right (not_not.2 hrange)]
    cases a.sort <;> simp
  · cases hraw : PageLink.ofRaw a.pageSize a.page with
    | ok raw => exact absurd (PageLink.exists_ofRaw_eq_ok_iff.1 ⟨raw, hraw⟩) hrange
    | error f =>
      refine .inl ⟨f, ?_, PageLink.kind_of_ofRaw_eq_error hraw, .inl hrange⟩
      rw [link, hraw]
      rfl

theorem listPage_actsInOrder (s : Store) (a : ListArgs) (link : PageLink) :
    ActsInOrder link.Unsortable True s (listPage Store.catalog a link) :=
  .ask (Store.list_failsInOrder s a.scope a.tenant link)

theorem walk_actsInOrder (s : Store) (a : ListArgs) (link : PageLink) :
    ActsInOrder link.Unsortable True s (walk (listPage Store.catalog a) link) := by
  induction link using walk.induct with
  | case1 link ih =>
    rw [walk]
    refine .bind (listPage_actsInOrder s a link) fun page hgood ha => ?_
    by_cases hnext : page.hasNext = true
    · by_cases hpage : link.page < maxPage
      · rw [if_pos hnext, dif_pos hpage]
        -- The next link is sorted like this one.
        have hrest : ActsInOrder link.Unsortable True s (walk (listPage Store.catalog a) link.next) := ih hpage
        exact hrest.map _
      · rw [if_pos hnext, dif_neg hpage]
        exact .pure hgood ha none
    · rw [if_neg hnext]
      exact .pure hgood ha _

theorem listAll_actsInOrder (s : Store) (a : ListArgs) (link : PageLink) :
    ActsInOrder link.Unsortable True s (listAll Store.catalog a link) := by
  refine .bind (walk_actsInOrder s a link) fun w hgood ha => ?_
  cases w with
  | some w => exact .pure hgood ha w.items
  | none => exact .of_error rfl (.of_available hgood ha nofun nofun)

/-! ## Commands -/

/-- What the command is given is refused. -/
def ResourceCommand.Refused (fresh : Fresh) : ResourceCommand → Prop
  | .list a => a.Refused
  | .save a => (a.resource fresh).check ≠ .ok ()
  | .get _ | .delete _ => False

/-- The command only asks. -/
def ResourceCommand.Reads : ResourceCommand → Prop
  | .list _ | .get _ => True
  | .save _ | .delete _ => False

theorem runResource_actsInOrder (s : Store) (fresh : Fresh) (c : ResourceCommand) :
    ActsInOrder (c.Refused fresh) c.Reads s (runResource Store.catalog fresh c) := by
  cases c with
  | list a =>
    rcases a.link_cases with ⟨f, hlink, hkind, hrefused⟩ | ⟨link, hlink, hiff⟩
    · have hrun : (runResource Store.catalog fresh (.list a)).run.run s = (.error f, s) := by
        rw [runResource, hlink]
        rfl
      refine .of_error hrun ?_
      rw [hkind]
      exact .of_refused hrefused
    · rw [ResourceCommand.Refused, ← hiff]
      by_cases hall : a.allPages = true
      · refine ((listAll_actsInOrder s a link).map Result.all).congr ?_
        rw [runResource, hlink, hall]
        rfl
      · refine ((listPage_actsInOrder s a link).map Result.page).congr ?_
        rw [runResource, hlink, Bool.eq_false_of_not_eq_true hall]
        rfl
  | get id => exact (ActsInOrder.ask (Store.find_failsInOrder s id)).map Result.item
  | save a => exact (ActsInOrder.update (Store.save_failsInOrder s (a.resource fresh))).map Result.item
  | delete id => exact (ActsInOrder.update (Store.remove_failsInOrder s id)).map (Result.removed id)

/-! ## Uses of a store -/

/-- What is done with a store: an operation, or a command on resources. -/
inductive Use where
  | operation (op : Store.Operation)
  | command (fresh : Fresh) (c : ResourceCommand)

namespace Use

/-- The kind of the failure, if there is one, and the store behind it. -/
def on (s : Store) : Use → Option Failure.Kind × Store
  | .operation op => ((s.step op).1.failureKind?, (s.step op).2)
  | .command fresh c =>
    let result := (runResource Store.catalog fresh c).run.run s
    (failureKind? result.1, result.2)

/-- The store after some uses. -/
def run (s : Store) : List Use → Store
  | [] => s
  | u :: us => run (u.on s).2 us

def Refused : Use → Prop
  | .operation op => op.Refused
  | .command fresh c => c.Refused fresh

def Reads : Use → Prop
  | .operation op => op.Reads
  | .command _ c => c.Reads

def Switches : Use → Prop
  | .operation op => op.Switches
  | .command _ _ => False

variable {u : Use}

theorem on_failsInOrder (s : Store) (h : ¬u.Switches) : FailsInOrder u.Refused s (u.on s).1 := by
  cases u with
  | operation op => exact Store.step_failsInOrder s h
  | command fresh c => exact (runResource_actsInOrder s fresh c).failsInOrder

theorem on_unchanged (h : (u.on s).1 ≠ none ∨ u.Reads) : (u.on s).2 = s := by
  cases u with
  | operation op => exact Store.step_unchanged h
  | command fresh c => exact (runResource_actsInOrder s fresh c).unchanged h

theorem eq_of_switches (h : u.Switches) : ∃ available, u = .operation (.setAvailable available) := by
  cases u with
  | operation op =>
    cases op with
    | setAvailable available => exact ⟨available, rfl⟩
    | find _ | «exists» _ | list _ _ _ | save _ | remove _ => exact h.elim
  | command fresh c => exact h.elim

/-- All that can be done with a store that cannot be reached is to make it available. -/
theorem on_unavailable (ha : s.available = false) (h : u ≠ .operation (.setAvailable true)) : (u.on s).2 = s := by
  by_cases hswitch : u.Switches
  · obtain ⟨available, rfl⟩ := eq_of_switches hswitch
    cases available with
    | true => exact absurd rfl h
    | false =>
      show s.setAvailable false = s
      rw [← ha]
      rfl
  · exact on_unchanged (.inl ((on_failsInOrder s hswitch).ne_none_of_unavailable ha))

theorem run_unavailable (ha : s.available = false) {us : List Use} (h : .operation (.setAvailable true) ∉ us) :
    run s us = s := by
  induction us with
  | nil => rfl
  | cons u us ih =>
    rw [List.mem_cons, not_or] at h
    rw [run, on_unavailable ha (Ne.symm h.1)]
    exact ih h.2

/-- What is refused fails as invalid whether or not the store can be reached, and what is not refused fails for the
store just if it cannot be. Neither a failure nor a question changes the store, so one that could not be reached for a
while is the one from before as soon as it is available again. -/
theorem failures_in_order (s : Store) :
    (∀ u : Use, ¬u.Switches → FailsInOrder u.Refused s (u.on s).1) ∧
    (∀ u : Use, (u.on s).1 ≠ none ∨ u.Reads → (u.on s).2 = s) ∧
    ∀ us : List Use, .operation (.setAvailable true) ∉ us →
      (run (s.setAvailable false) us).setAvailable s.available = s := by
  refine ⟨fun u h => on_failsInOrder s h, fun u h => on_unchanged h, fun us h => ?_⟩
  have haway : (s.setAvailable false).available = false := rfl
  rw [run_unavailable haway h]
  rfl

def sampleFresh : Fresh := { id := ⟨⟨5⟩⟩, now := (Store.sampleRow 5 7 "New" "n").createdAt }

/-- While the sample cannot be reached, a blank title and a list by nothing that resources are sorted by are refused
as ever, other lists fail, and the sample comes back as it was. -/
theorem failures_in_order_sample :
    let away := Store.sample.setAvailable false
    let blank := Use.operation (.save (Store.sampleRow 5 7 " " "n"))
    let unsorted := Use.command sampleFresh (.list { sampleArgs with sort := some "size" })
    let sorted := Use.command sampleFresh (.list sampleArgs)
    (blank.on away).1 = some .validation ∧ (unsorted.on away).1 = some .validation ∧
      (sorted.on away).1 = some .storeUnavailable ∧
      (run away [blank, unsorted, sorted]).setAvailable true = Store.sample := by
  intro away blank unsorted sorted
  obtain ⟨hfails, -, -⟩ := failures_in_order away
  obtain ⟨-, -, hback⟩ := failures_in_order Store.sample
  have hblank : blank.Refused := by
    intro hcheck
    exact Resource.check_eq_ok_iff_not_unspecified.1 hcheck (.inl (by decide))
  have hunsorted : unsorted.Refused := .inr ⟨"size", rfl, fun p => nofun⟩
  have hsorted : ¬sorted.Refused := by
    rintro (hrange | ⟨name, hname, hnone⟩)
    · exact hrange ⟨by decide, by decide⟩
    · cases hname
      exact hnone .title rfl
  refine ⟨(hfails blank nofun).validation_iff.2 hblank, (hfails unsorted nofun).validation_iff.2 hunsorted,
    (hfails sorted nofun).storeUnavailable_iff.2 ⟨hsorted, rfl⟩, ?_⟩
  have havailable : Store.sample.available = true := by decide
  rw [← havailable]
  exact hback _ (by simp [blank, unsorted, sorted])

end Use

end ResourceCatalog.Command
