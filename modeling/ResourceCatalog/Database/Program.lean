import ResourceCatalog.Database.Row
import ResourceCatalog.Failure

/-!
# Programs that talk to a database

A program is a tree of requests: for every reply that a request may get, it says how to go on. A program
sends nothing by itself, so what it does can be stated for every database that answers it.
-/

namespace ResourceCatalog.Database

/-- A migration that the database has recorded, with its checksum in hexadecimal digits. -/
structure AppliedMigration where
  version : Int
  checksum : String
deriving DecidableEq, Repr

/-- What the database has recorded of migrations. -/
structure MigrationRecord where
  /-- A migration that was begun and not finished. -/
  dirty : Option Int
  applied : List AppliedMigration
deriving DecidableEq, Repr

/-- What a program may ask for. -/
inductive Request where
  /-- A connection of the pool. -/
  | acquire
  /-- Runs a statement for its effect. -/
  | command (s : Statement)
  /-- Runs a statement whose rows hold a number each. -/
  | numbers (s : Statement)
  /-- Runs a statement whose rows hold a truth value each. -/
  | truths (s : Statement)
  /-- Runs a statement whose rows are rows of the table. -/
  | rows (s : Statement)
  /-- The record of migrations. -/
  | migrations

/-- What a request is answered with if it succeeds. -/
abbrev Request.Reply : Request → Type
  | .acquire => Unit
  /- The number of rows that the statement affected. -/
  | .command _ => Nat
  | .numbers _ => List (Option Int)
  | .truths _ => List (Option Bool)
  | .rows _ => List Row
  | .migrations => MigrationRecord

/-- The statement that a request sends. -/
def Request.statement? : Request → Option Statement
  | .command s | .numbers s | .truths s | .rows s => some s
  | .acquire | .migrations => none

inductive Program (α : Type) where
  | done (a : α)
  | ask (request : Request) (next : Except Error request.Reply → Program α)

namespace Program

variable {α β : Type}

def bind : Program α → (α → Program β) → Program β
  | done a, f => f a
  | ask request next, f => ask request fun reply => (next reply).bind f

instance : Monad Program where
  pure := done
  bind := bind

/-- Runs a program against a database with state `σ`, which answers every request and may change by it. -/
def run {σ : Type} (answer : σ → (request : Request) → Except Error request.Reply × σ) (s : σ) :
    Program α → α × σ
  | done a => (a, s)
  | ask request next =>
    let (reply, s) := answer s request
    (next reply).run answer s

end Program

/-- A program that may fail. -/
abbrev Query := ExceptT Failure Program

namespace Query

/-- Sends a request; an error is a failure of what the context names. -/
def request (context : String) (r : Request) : Query r.Reply :=
  ExceptT.mk (.ask r fun reply => .done (reply.mapError (Failure.ofDatabase context)))

/-- Sends a request on a connection of the pool. -/
def onPool (context : String) (r : Request) : Query r.Reply := do
  request context .acquire
  request context r

/-- What was read from a reply, or the failure of what the context names. -/
def decoded {α : Type} (context : String) (result : Except Error α) : Query α :=
  ExceptT.mk (.done (result.mapError (Failure.ofDatabase context)))

/-- The first row of a reply that has to have one. -/
def first {α : Type} (context : String) : List α → Query α
  | row :: _ => pure row
  | [] => decoded context (.error .rowNotFound)

def ofOutcome {α : Type} (outcome : Outcome α) : Query α := ExceptT.mk (.done outcome)

end Query

end ResourceCatalog.Database
