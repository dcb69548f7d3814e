import WorkQueue.Settings.Sections
import WorkQueue.Wire.Decoder

/-!
# Wire forms of settings

How settings are written as JSON and read back. Every field but those of a task type has a default.

## Main definitions

* for each section a pair `Wire.ofSettings`, `Wire.settings` and so on: writing and reading
-/

namespace WorkQueue.Wire

def ofStrategy (s : Backoff.Strategy) : Json := .text s.name

/-- The strategy with a name. -/
def strategyOfName? (s : String) : Option Backoff.Strategy :=
  [.linear, .exponential].find? fun strategy => strategy.name = s

def strategy : Json → Decode Backoff.Strategy := named strategyOfName?

def ofPolicy (p : Backoff.Policy) : Json := .object [
  ("strategy", ofStrategy p.strategy),
  ("max_delay_seconds", .int p.maxDelaySeconds)]

def policyFields : List String := ["strategy", "max_delay_seconds"]

/-- A policy with both of its fields. -/
def policy (j : Json) : Decode Backoff.Policy := do
  let r ← record policyFields j
  return {
    strategy := ← r.required "strategy" strategy
    maxDelaySeconds := ← r.required "max_delay_seconds" int64 }

/-- The section on retries; its fields have defaults. -/
def backoffSection (j : Json) : Decode Backoff.Policy := do
  let r ← record policyFields j
  return {
    strategy := ← r.defaulted "strategy" .linear strategy
    maxDelaySeconds := ← r.defaulted "max_delay_seconds" 3600 int64 }

def ofDatabaseSection (d : Settings.Database) : Json := .object [
  ("url", .text d.url),
  ("max_connections", .nat d.maxConnections),
  ("min_connections", .nat d.minConnections),
  ("acquire_timeout_seconds", .nat d.acquireTimeoutSeconds),
  ("run_migrations", .bool d.runMigrations)]

def databaseFields : List String :=
  ["url", "max_connections", "min_connections", "acquire_timeout_seconds", "run_migrations"]

def databaseSection (j : Json) : Decode Settings.Database := do
  let r ← record databaseFields j
  let d : Settings.Database := {}
  return {
    url := ← r.defaulted "url" d.url text
    maxConnections := ← r.defaulted "max_connections" d.maxConnections nat32
    minConnections := ← r.defaulted "min_connections" d.minConnections nat32
    acquireTimeoutSeconds := ←
      r.defaulted "acquire_timeout_seconds" d.acquireTimeoutSeconds nat64
    runMigrations := ← r.defaulted "run_migrations" d.runMigrations bool }

def ofWorkerSection (w : Settings.Worker) : Json := .object [
  ("worker_id", .ofText? w.workerId),
  ("batch_size", .nat w.batchSize),
  ("max_concurrency", .nat w.maxConcurrency),
  ("poll_interval_ms", .nat w.pollIntervalMs),
  ("shutdown_timeout_seconds", .nat w.shutdownTimeoutSeconds),
  ("listen_for_notifications", .bool w.listenForNotifications)]

def workerFields : List String :=
  ["worker_id", "batch_size", "max_concurrency", "poll_interval_ms", "shutdown_timeout_seconds",
    "listen_for_notifications"]

def workerSection (j : Json) : Decode Settings.Worker := do
  let r ← record workerFields j
  let w : Settings.Worker := {}
  return {
    workerId := ← r.optionalDefaulted "worker_id" text
    batchSize := ← r.defaulted "batch_size" w.batchSize nat32
    maxConcurrency := ← r.defaulted "max_concurrency" w.maxConcurrency nat64
    pollIntervalMs := ← r.defaulted "poll_interval_ms" w.pollIntervalMs nat64
    shutdownTimeoutSeconds := ←
      r.defaulted "shutdown_timeout_seconds" w.shutdownTimeoutSeconds nat64
    listenForNotifications := ←
      r.defaulted "listen_for_notifications" w.listenForNotifications bool }

def ofMonitorSection (m : Settings.Monitor) : Json := .object [
  ("check_interval_seconds", .nat m.checkIntervalSeconds),
  ("pending_tasks", .int m.pendingTasks),
  ("failed_tasks", .int m.failedTasks),
  ("failure_rate", .binary m.failureRate)]

def monitorFields : List String :=
  ["check_interval_seconds", "pending_tasks", "failed_tasks", "failure_rate"]

def monitorSection (j : Json) : Decode Settings.Monitor := do
  let r ← record monitorFields j
  let m : Settings.Monitor := {}
  return {
    checkIntervalSeconds := ← r.defaulted "check_interval_seconds" m.checkIntervalSeconds nat64
    pendingTasks := ← r.defaulted "pending_tasks" m.pendingTasks int64
    failedTasks := ← r.defaulted "failed_tasks" m.failedTasks int64
    failureRate := ← r.defaulted "failure_rate" m.failureRate binary }

def ofTaskTypeEntry (e : Settings.TaskTypeEntry) : Json := .object [
  ("name", .text e.name),
  ("max_attempts", .int e.maxAttempts),
  ("retry_backoff_seconds", .int e.retryBackoffSeconds),
  ("description", .ofText? e.description)]

def taskTypeEntryFields : List String :=
  ["name", "max_attempts", "retry_backoff_seconds", "description"]

def taskTypeEntry (j : Json) : Decode Settings.TaskTypeEntry := do
  let r ← record taskTypeEntryFields j
  return {
    name := ← r.required "name" text
    maxAttempts := ← r.required "max_attempts" int32
    retryBackoffSeconds := ← r.required "retry_backoff_seconds" int64
    description := ← r.optionalDefaulted "description" text }

def ofSettings (s : Settings) : Json := .object [
  ("database", ofDatabaseSection s.database),
  ("worker", ofWorkerSection s.worker),
  ("backoff", ofPolicy s.backoff),
  ("monitor", ofMonitorSection s.monitor),
  ("task_types", .array (s.taskTypes.map ofTaskTypeEntry))]

def settingsFields : List String := ["database", "worker", "backoff", "monitor", "task_types"]

def settings (j : Json) : Decode Settings := do
  let r ← record settingsFields j
  return {
    database := ← r.defaulted "database" {} databaseSection
    worker := ← r.defaulted "worker" {} workerSection
    backoff := ← r.defaulted "backoff" {} backoffSection
    monitor := ← r.defaulted "monitor" {} monitorSection
    taskTypes := ← r.defaulted "task_types" [] (list taskTypeEntry) }

end WorkQueue.Wire
