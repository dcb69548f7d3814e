import WorkQueue.Database.Migration
import WorkQueue.Database.Statement
import WorkQueue.Host

/-!
# Database sessions

A session is a program that talks to a database: it sends statements and transaction commands, and
goes on with their answers. It also uses the services of a host. Sessions are data, so that the
statements of a program can be followed for any answers.

## Main definitions

* `Database.Trouble`: why a statement has no answer
* `Database.Session`: the programs
* `Database.Session.transaction`: a body between `BEGIN` and `COMMIT` or `ROLLBACK`
* `Database.Session.interpret`: a session run by an executor
-/

namespace WorkQueue.Database

/-- Why a statement has no answer, or not the one that was asked for. -/
inductive Trouble where
  /-- The server refused the statement. -/
  | refused (text : String)
  /-- The connection ended. -/
  | closed
  /-- A row was asked for and none came. -/
  | noRow
  /-- No answer was prepared. -/
  | unanswered
  /-- No connection can be opened. -/
  | unreachable
  deriving DecidableEq, Inhabited

def Trouble.message : Trouble → String
  | refused text => s!"error returned from database: {text}"
  | closed =>
    "error communicating with database: expected to read 5 bytes, got 0 bytes at EOF"
  | noRow => "no rows returned by a query that expected to return at least one row"
  | unanswered => "script exhausted"
  | unreachable => "pool timed out while waiting for an open connection"

def Trouble.toFailure (t : Trouble) : Failure := .database t.message

/-- What is sent to the database beside statements on rows. -/
inductive Command where
  | begin_
  | commit
  | rollback
  /-- Listens on the channel of enqueued tasks. -/
  | listen
  /-- Carries out the text of a migration. -/
  | migrate (migration : Migration)
  /-- Notes that a migration is applied. -/
  | noteMigration (migration : Migration)
  deriving DecidableEq, Inhabited

/-- A program that talks to a database and uses the services of a host. -/
inductive Session (α : Type) where
  | done (result : α)
  | run (s : Statement) (next : Except Trouble (List s.Row) → Session α)
  | command (c : Command) (next : Except Trouble Unit → Session α)
  /-- Reads which migrations the database has noted. -/
  | ledger (next : Except Trouble (List Migration.Mark) → Session α)
  | now (next : Timestamp → Session α)
  | freshId (next : Uuid → Session α)
  | emit (event : Telemetry.Event) (next : Session α)

namespace Session

variable {α β : Type}

/-- Goes on with the result of a session. -/
def andThen : Session α → (α → Session β) → Session β
  | done result, f => f result
  | run s next, f => run s fun answer => (next answer).andThen f
  | command c next, f => command c fun answer => (next answer).andThen f
  | ledger next, f => ledger fun marks => (next marks).andThen f
  | now next, f => now fun t => (next t).andThen f
  | freshId next, f => freshId fun id => (next id).andThen f
  | emit event next, f => emit event (next.andThen f)

instance : Monad Session where
  pure := done
  bind := andThen

instance : Host Session where
  now := now done
  freshId := freshId done
  emit event := emit event (done ())

/-! ### Statements -/

/-- All rows that answer a statement. -/
def rows (s : Statement) : Session (Except Trouble (List s.Row)) := run s done

/-- The first row that answers a statement, if there is one. -/
def optionalRow (s : Statement) : Session (Except Trouble (Option s.Row)) :=
  run s fun answer => done (answer.map (·.head?))

/-- The first row that answers a statement; there has to be one. -/
def oneRow (s : Statement) : Session (Except Trouble s.Row) :=
  run s fun answer => done <|
    match answer with
    | .error trouble => .error trouble
    | .ok [] => .error .noRow
    | .ok (row :: _) => .ok row

/-- Sends a statement whose rows do not matter. -/
def execute (s : Statement) : Session (Except Trouble Unit) :=
  run s fun answer => done (answer.map fun _ => ())

/-- Sends a command. -/
def send (c : Command) : Session (Except Trouble Unit) := command c done

/-! ### Fallible parts -/

/-- A part of a session that may fail for a reason of the queue. -/
abbrev Fallible (α : Type) := ExceptT Failure Session α

/-- A step whose trouble is a failure of the queue. -/
def attempt (step : Session (Except Trouble α)) : Fallible α :=
  ExceptT.mk (step.andThen fun answer => done (answer.mapError Trouble.toFailure))

/-- A body inside a transaction: committed when it succeeds, rolled back when it fails. -/
def transaction (body : Fallible α) : Fallible α := do
  attempt (send .begin_)
  let result ← ExceptT.lift body.run
  match result with
  | .ok value =>
    attempt (send .commit)
    return value
  | .error failure =>
    let _ ← (send .rollback : Session (Except Trouble Unit))
    throw failure

/-! ### Running -/

/-- What carries out the requests of a session. -/
structure Executor (m : Type → Type) where
  run : (s : Statement) → m (Except Trouble (List s.Row))
  command : Command → m (Except Trouble Unit)
  ledger : m (Except Trouble (List Migration.Mark))

/-- Runs a session with an executor and the services of a host. -/
def interpret {m : Type → Type} [Monad m] [Host m] (e : Executor m) : Session α → m α
  | done result => pure result
  | run s next => do (next (← e.run s)).interpret e
  | command c next => do (next (← e.command c)).interpret e
  | ledger next => do (next (← e.ledger)).interpret e
  | now next => do (next (← Host.now)).interpret e
  | freshId next => do (next (← Host.freshId)).interpret e
  | emit event next => do
    Host.emit event
    next.interpret e

end Session

end WorkQueue.Database
