/-!
# Schema migrations

The migrations that bring the schema of the database up to date, and how they are applied in order.

## Main definitions

* `Database.Migration`, `Database.Migration.all`: the migrations in ascending order
* `Database.Migration.Mark`: what a database has noted about a migration
* `Database.Migration.checkMarks`, `isOutstanding`: what is to be applied, or why nothing can be
-/

namespace WorkQueue.Database

/-- A change of the schema. -/
structure Migration where
  /-- Migrations are applied in ascending order of their versions. -/
  version : Nat
  description : String
  /-- The statements of the migration, line by line. -/
  lines : List String
  deriving DecidableEq, Inhabited

namespace Migration

/-- The tables of a queue and their indexes. -/
def createTaskQueue : Migration where
  version := 20250101000000
  description := "create task queue"
  lines := [
      "-- Task queue schema: task types, tasks, dependency edges and execution log",
      "CREATE TABLE IF NOT EXISTS task_types (",
      "name VARCHAR(128) PRIMARY KEY,",
      "max_attempts INTEGER NOT NULL CHECK (max_attempts > 0),",
      "retry_backoff_seconds BIGINT NOT NULL DEFAULT 60 CHECK (retry_backoff_seconds >= 0),",
      "description TEXT,",
      "created_at TIMESTAMPTZ NOT NULL DEFAULT NOW()",
      ");",
      "CREATE TABLE IF NOT EXISTS tasks (",
      "id UUID PRIMARY KEY,",
      "task_type VARCHAR(128) NOT NULL REFERENCES task_types (name),",
      "payload JSONB NOT NULL DEFAULT '\x7b\x7d'::jsonb,",
      "resource_id VARCHAR(255),",
      "status TEXT NOT NULL DEFAULT 'pending'",
      "CHECK (status IN ('pending', 'claimed', 'processing', 'completed', 'failed', 'cancelled')),",
      "attempts INTEGER NOT NULL DEFAULT 0 CHECK (attempts >= 0),",
      "scheduled_for TIMESTAMPTZ NOT NULL DEFAULT NOW(),",
      "next_attempt_at TIMESTAMPTZ,",
      "last_error TEXT,",
      "claimed_by VARCHAR(255),",
      "created_at TIMESTAMPTZ NOT NULL DEFAULT NOW(),",
      "updated_at TIMESTAMPTZ NOT NULL DEFAULT NOW(),",
      "completed_at TIMESTAMPTZ",
      ");",
      "-- Claim scan: due pending rows and retryable failed rows",
      "CREATE INDEX IF NOT EXISTS idx_tasks_pending_scheduled",
      "ON tasks (scheduled_for)",
      "WHERE status = 'pending';",
      "CREATE INDEX IF NOT EXISTS idx_tasks_failed_retry",
      "ON tasks (next_attempt_at)",
      "WHERE status = 'failed' AND next_attempt_at IS NOT NULL;",
      "CREATE INDEX IF NOT EXISTS idx_tasks_status_type_created",
      "ON tasks (status, task_type, created_at);",
      "CREATE INDEX IF NOT EXISTS idx_tasks_resource_id",
      "ON tasks (resource_id)",
      "WHERE resource_id IS NOT NULL;",
      "CREATE TABLE IF NOT EXISTS task_dependencies (",
      "task_id UUID NOT NULL REFERENCES tasks (id) ON DELETE CASCADE,",
      "depends_on_task_id UUID NOT NULL REFERENCES tasks (id) ON DELETE CASCADE,",
      "created_at TIMESTAMPTZ NOT NULL DEFAULT NOW(),",
      "PRIMARY KEY (task_id, depends_on_task_id),",
      "CHECK (task_id <> depends_on_task_id)",
      ");",
      "CREATE INDEX IF NOT EXISTS idx_task_dependencies_depends_on",
      "ON task_dependencies (depends_on_task_id);",
      "CREATE TABLE IF NOT EXISTS task_logs (",
      "id BIGSERIAL PRIMARY KEY,",
      "task_id UUID NOT NULL REFERENCES tasks (id) ON DELETE CASCADE,",
      "level TEXT NOT NULL CHECK (level IN ('info', 'error')),",
      "message TEXT NOT NULL,",
      "recorded_at TIMESTAMPTZ NOT NULL DEFAULT NOW()",
      ");",
      "CREATE INDEX IF NOT EXISTS idx_task_logs_task_id",
      "ON task_logs (task_id, id);"]

/-- The priority of tasks. -/
def addTaskPriority : Migration where
  version := 20250102000000
  description := "add task priority"
  lines := [
      "-- Task priority: 0 (default) to 10, higher is claimed first",
      "ALTER TABLE tasks",
      "ADD COLUMN IF NOT EXISTS priority INTEGER NOT NULL DEFAULT 0",
      "CHECK (priority BETWEEN 0 AND 10);",
      "CREATE INDEX IF NOT EXISTS idx_tasks_pending_priority",
      "ON tasks (priority DESC, scheduled_for)",
      "WHERE status = 'pending';"]

/-- All migrations in ascending order of their versions. -/
def all : List Migration := [createTaskQueue, addTaskPriority]

/-- The versions of all migrations, oldest first. -/
def versions : List Nat := all.map (·.version)

/-- The text of a migration, with single blanks. -/
def text (migration : Migration) : String := " ".intercalate migration.lines

/-- The state in which a database has noted a migration. -/
inductive Condition where
  | applied
  /-- Applied with another text. -/
  | modified
  /-- Begun and not finished. -/
  | unfinished
  deriving DecidableEq, Inhabited, Repr

/-- What a database has noted about a migration. -/
structure Mark where
  version : Nat
  condition : Condition
  deriving DecidableEq, Inhabited, Repr

/-- What is said of a migration that was not finished. -/
def unfinishedText (version : Nat) : String :=
  s!"migration {version} is partially applied; " ++
    "fix and remove row from `_sqlx_migrations` table"

/-- What is said of a noted migration that is not known. -/
def missingText (version : Nat) : String :=
  s!"migration {version} was previously applied but is missing in the resolved migrations"

/-- What is said of a migration that was applied with another text. -/
def modifiedText (version : Nat) : String :=
  s!"migration {version} was previously applied but has been modified"

/-- Checks the noted migrations as a whole: none is unfinished, and all of them are known. -/
def checkMarks (marks : List Mark) : Except String Unit :=
  match marks.find? fun mark => mark.condition = .unfinished with
  | some mark => .error (unfinishedText mark.version)
  | none =>
    match marks.find? fun mark => mark.version ∉ versions with
    | some mark => .error (missingText mark.version)
    | none => .ok ()

/-- Whether a migration is to be applied; one that was applied with another text is an error. -/
def isOutstanding (marks : List Mark) (migration : Migration) : Except String Bool :=
  match marks.find? fun mark => mark.version = migration.version with
  | none => .ok true
  | some mark =>
    if mark.condition = .modified then .error (modifiedText migration.version) else .ok false

end Migration

end WorkQueue.Database
