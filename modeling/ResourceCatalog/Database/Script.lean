import ResourceCatalog.Database.Program

/-!
# A database that follows a script

Answers requests from given replies and records every statement that it is sent. One statement of the
script may be made to fail. A statement that stores a resource answers with the stored values unless the
script has rows.
-/

namespace ResourceCatalog.Database

/-- The statement that fails, counted from zero, and how. -/
structure ScriptedFailure where
  index : Nat
  error : Error

structure Script where
  count : Option Int := none
  truth : Option Bool := none
  rows : Option (List Row) := none
  affected : Nat := 0
  failure : Option ScriptedFailure := none
  migrations : MigrationRecord := ⟨none, []⟩

/-- A run of a script: the statements so far, last first, and whether connections are given out. -/
structure ScriptedRun where
  script : Script
  closed : Bool
  sent : List Statement := []

namespace ScriptedRun

/-- Records a statement; the answer is the scripted failure if it is that statement's turn. -/
def send {α : Type} (run : ScriptedRun) (s : Statement) (answer : α) : Except Error α × ScriptedRun :=
  let reply := match run.script.failure with
    | some failure => if failure.index = run.sent.length then .error failure.error else .ok answer
    | none => .ok answer
  (reply, { run with sent := s :: run.sent })

/-- The row whose values are bound to the places of a statement in the order of the columns. -/
def boundRow? : List Param → Option Row
  | [.uuid id, .instant createdAt, .uuid tenantId, .text title, .resourceType type, .text key] =>
    some { id := some id, createdAt := some createdAt, tenantId := some tenantId, title := some title,
           resourceType := some type.name, resourceKey := some key }
  | _ => none

/-- The rows that a statement answers with if the script has none. -/
def defaultRows (s : Statement) : List Row := (boundRow? s.params).toList

def answer (run : ScriptedRun) : (request : Request) → Except Error request.Reply × ScriptedRun
  | .acquire => (if run.closed then .error .poolClosed else .ok (), run)
  | .command s => run.send s run.script.affected
  | .numbers s => run.send s [run.script.count]
  | .truths s => run.send s [run.script.truth]
  | .rows s => run.send s (run.script.rows.getD (defaultRows s))
  | .migrations => (.ok run.script.migrations, run)

end ScriptedRun

/-- The outcome of a query on a scripted database, and the statements that it sent in order. -/
def Query.runScript {α : Type} (query : Query α) (script : Script) (closed : Bool) :
    Outcome α × List Statement :=
  let (outcome, run) := Program.run ScriptedRun.answer { script, closed } query.run
  (outcome, run.sent.reverse)

end ResourceCatalog.Database
