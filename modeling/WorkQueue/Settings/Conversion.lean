import WorkQueue.Settings.Tree
import WorkQueue.Settings.Sections
import WorkQueue.Binary64.Shortest

/-!
# Settings from trees

How the values of a tree are understood as settings. Numbers, truth values and texts are converted
into each other where that makes sense; only optional settings may be null, and unknown names are
ignored.

## Main definitions

* `Settings.Tree.toBool?`, `toNat?`, `toInt?`, `toBinary?`, `toText?`: the conversions
* `Settings.Fields`: the entries of a section, by name or in order
* `Settings.ofTable?`: the settings that a table holds
-/

namespace WorkQueue.Settings

namespace Tree

/-- The truth value that a word stands for, in any case. -/
def truthWord? (s : String) : Option Bool :=
  let lower := s.toLower
  if lower ∈ ["true", "on", "yes"] then some true
  else if lower ∈ ["false", "off", "no"] then some false
  else none

/-- A truth value; numbers other than zero are true. -/
def toBool? : Tree → Option Bool
  | bool b => some b
  | integer n => some (n ≠ 0)
  | binary x => some (!x.isZero)
  | text s => if s = "1" then some true else if s = "0" then some false else truthWord? s
  | _ => none

/-- A natural number of a range. Other numbers are rounded, halves up, and clamped to 64 bits
first. -/
def toNat? (r : IntRange) (tree : Tree) : Option Nat :=
  let word : Option Int := match tree with
    | bool b => some b.toNat
    | integer n => some n
    | binary x => some (x.roundClamped .nat64)
    | text s =>
      match truthWord? s with
      | some b => some b.toNat
      | none => (Text.unsigned? 10 s.toList).map Int.ofNat
    | _ => none
  (word.bind r.keep?).map Int.toNat

/-- An integer of a range. Other numbers are rounded, halves away from zero, and clamped to 64 bits
first. -/
def toInt? (r : IntRange) (tree : Tree) : Option Int :=
  let word : Option Int := match tree with
    | bool b => some b.toNat
    | integer n => some n
    | binary x => some (x.roundClamped .int64)
    | text s =>
      match truthWord? s with
      | some b => some b.toNat
      | none => Text.word? 10 s.toList
    | _ => none
  word.bind r.keep?

/-- A floating-point number. -/
def toBinary? : Tree → Option Binary64
  | bool b => some (.ofNat b.toNat)
  | integer n => some (.ofInt n)
  | binary x => some x
  | text s =>
    match truthWord? s with
    | some b => some (.ofNat b.toNat)
    | none => Binary64.ofText? s
  | _ => none

/-- A text; numbers and truth values are written out. -/
def toText? : Tree → Option String
  | bool b => some (if b then "true" else "false")
  | integer n => some (toString n)
  | binary x => some x.positional
  | text s => some s
  | _ => none

/-- A value that may be null. -/
def toOption? {α : Type} (item : Tree → Option α) : Tree → Option (Option α)
  | null => some none
  | tree => (item tree).map some

/-- A list of values. -/
def toList? {α : Type} (item : Tree → Option α) : Tree → Option (List α)
  | list items => items.mapM item
  | _ => none

def toNat32? : Tree → Option Nat := toNat? .nat32

def toNat64? : Tree → Option Nat := toNat? .nat64

def toInt32? : Tree → Option Int := toInt? .int32

def toInt64? : Tree → Option Int := toInt? .int64

/-- The strategy that is named, in any case, by a text or by the only entry of a table. -/
def toStrategy? (tree : Tree) : Option Backoff.Strategy :=
  let name := match tree with
    | text s => some s
    | table [(name, _)] => some name
    | _ => none
  name.bind fun name =>
    [Backoff.Strategy.linear, .exponential].find? fun s => s.name = name.toLower

end Tree

/-! ### Sections -/

/-- The given fields of a section. -/
abbrev Fields := Table

/-- The fields of a section that is a table, or a list with its values in the order of `names`. -/
def fields? (names : List String) : Tree → Option Fields
  | .table entries => some entries
  | .list items => some (names.zip items)
  | _ => none

namespace Fields

variable {α : Type}

/-- A field with a default for when it is not given. -/
def read? (fields : Fields) (name : String) (default : α) (item : Tree → Option α) : Option α :=
  match Table.find? name fields with
  | none => some default
  | some tree => item tree

/-- A field that has to be given. -/
def required? (fields : Fields) (name : String) (item : Tree → Option α) : Option α :=
  (Table.find? name fields).bind item

end Fields

/-- The section on the database. -/
def databaseOf? (tree : Tree) : Option Database := do
  let f ← fields? ["url", "max_connections", "min_connections", "acquire_timeout_seconds",
    "run_migrations"] tree
  let d : Database := {}
  return {
    url := ← f.read? "url" d.url Tree.toText?
    maxConnections := ← f.read? "max_connections" d.maxConnections Tree.toNat32?
    minConnections := ← f.read? "min_connections" d.minConnections Tree.toNat32?
    acquireTimeoutSeconds := ←
      f.read? "acquire_timeout_seconds" d.acquireTimeoutSeconds Tree.toNat64?
    runMigrations := ← f.read? "run_migrations" d.runMigrations Tree.toBool? }

/-- The section on workers. -/
def workerOf? (tree : Tree) : Option Worker := do
  let f ← fields? ["worker_id", "batch_size", "max_concurrency", "poll_interval_ms",
    "shutdown_timeout_seconds", "listen_for_notifications"] tree
  let w : Worker := {}
  return {
    workerId := ← f.read? "worker_id" w.workerId (Tree.toOption? Tree.toText?)
    batchSize := ← f.read? "batch_size" w.batchSize Tree.toNat32?
    maxConcurrency := ← f.read? "max_concurrency" w.maxConcurrency Tree.toNat64?
    pollIntervalMs := ← f.read? "poll_interval_ms" w.pollIntervalMs Tree.toNat64?
    shutdownTimeoutSeconds := ←
      f.read? "shutdown_timeout_seconds" w.shutdownTimeoutSeconds Tree.toNat64?
    listenForNotifications := ←
      f.read? "listen_for_notifications" w.listenForNotifications Tree.toBool? }

/-- The section on retries. -/
def backoffOf? (tree : Tree) : Option Backoff.Policy := do
  let f ← fields? ["strategy", "max_delay_seconds"] tree
  let p : Backoff.Policy := {}
  return {
    strategy := ← f.read? "strategy" p.strategy Tree.toStrategy?
    maxDelaySeconds := ← f.read? "max_delay_seconds" p.maxDelaySeconds Tree.toInt64? }

/-- The section on the monitor. -/
def monitorOf? (tree : Tree) : Option Monitor := do
  let f ← fields? ["check_interval_seconds", "pending_tasks", "failed_tasks", "failure_rate"] tree
  let m : Monitor := {}
  return {
    checkIntervalSeconds := ←
      f.read? "check_interval_seconds" m.checkIntervalSeconds Tree.toNat64?
    pendingTasks := ← f.read? "pending_tasks" m.pendingTasks Tree.toInt64?
    failedTasks := ← f.read? "failed_tasks" m.failedTasks Tree.toInt64?
    failureRate := ← f.read? "failure_rate" m.failureRate Tree.toBinary? }

/-- An entry of the list of task types. -/
def taskTypeOf? (tree : Tree) : Option TaskTypeEntry := do
  let f ← fields? ["name", "max_attempts", "retry_backoff_seconds", "description"] tree
  return {
    name := ← f.required? "name" Tree.toText?
    maxAttempts := ← f.required? "max_attempts" Tree.toInt32?
    retryBackoffSeconds := ← f.required? "retry_backoff_seconds" Tree.toInt64?
    description := ← f.read? "description" none (Tree.toOption? Tree.toText?) }

/-- The settings that a table holds; what is not given has its default. -/
def ofTable? (t : Table) : Option Settings := do
  let s : Settings := {}
  return {
    database := ← Fields.read? t "database" s.database databaseOf?
    worker := ← Fields.read? t "worker" s.worker workerOf?
    backoff := ← Fields.read? t "backoff" s.backoff backoffOf?
    monitor := ← Fields.read? t "monitor" s.monitor monitorOf?
    taskTypes := ← Fields.read? t "task_types" s.taskTypes (Tree.toList? taskTypeOf?) }

end WorkQueue.Settings
