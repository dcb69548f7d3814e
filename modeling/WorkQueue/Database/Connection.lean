import WorkQueue.Database.Session
import WorkQueue.Settings.Sections

/-!
# Opening a database

What happens between opening a connection and the first operation: outstanding migrations are
applied in order, each in its own transaction, and the connection is reported.

## Main definitions

* `Database.applyMigrations`: brings the schema up to date
* `Database.connected`: the rest of opening a connection
* `Database.listen`: waiting for notifications of new tasks
* `Database.healthCheck`: whether the database answers
-/

namespace WorkQueue.Database

open Session

/-- Applies one migration in a transaction of its own and notes it. -/
def applyMigration (migration : Migration) : Fallible Unit := do
  attempt (send .begin_)
  attempt (send (.migrate migration))
  attempt (send (.noteMigration migration))
  attempt (send .commit)

/-- Applies the outstanding ones of some migrations in order. -/
def applyOutstanding (marks : List Migration.Mark) : List Migration → Fallible Unit
  | [] => return ()
  | migration :: rest => do
    match Migration.isOutstanding marks migration with
    | .error text => throw (.database s!"Migration failed: {text}")
    | .ok outstanding =>
      if outstanding then applyMigration migration
      applyOutstanding marks rest

/-- Brings the schema up to date. -/
def applyMigrations : Fallible Unit := do
  let marks ← attempt (Session.ledger Session.done)
  match Migration.checkMarks marks with
  | .error text => throw (.database s!"Migration failed: {text}")
  | .ok () =>
    applyOutstanding marks Migration.all
    (Host.report .info "task_queue::database::migrations" "Database migrations up to date"
      [("known_migrations", .integer Migration.all.length)] : Session Unit)

/-- Prepares an opened connection for use. -/
def connected (settings : Settings.Database) : Fallible Unit := do
  if settings.runMigrations then applyMigrations
  (Host.report .info "task_queue::database::connection" "Database pool ready"
    [("max_connections", .integer settings.maxConnections),
      ("migrations_applied", .bool settings.runMigrations)] : Session Unit)

/-- Listens for the enqueues of other processes. -/
def listen : Fallible Unit := do
  attempt (send .listen)
  (Host.report .info "task_queue::store::postgres" "Listening for enqueue notifications"
    [("channel", .quoted enqueueChannel)] : Session Unit)

/-- Reports that a task was enqueued elsewhere. -/
def reportNotification {m : Type → Type} [Host m] (taskType : String) : m Unit :=
  Host.report .debug "task_queue::store::postgres" "Enqueue notification received"
    [("task_type", .quoted taskType)]

/-- Whether the database answers as expected. -/
def healthCheck : Fallible Bool := do
  let answer : Int ← attempt (oneRow .health)
  return answer = 1

end WorkQueue.Database
