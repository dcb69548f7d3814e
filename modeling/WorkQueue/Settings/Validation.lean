import WorkQueue.Settings.Sections
import WorkQueue.Binary64.Shortest

/-!
# Valid settings

The bounds that settings have to keep, checked section by section.

## Main definitions

* `Settings.Error`: why settings cannot be used
* `Settings.validate`: the check; the first violation is reported
-/

namespace WorkQueue.Settings

/-- Why settings cannot be used. -/
inductive Error where
  /-- The base file is missing. -/
  | fileNotFound (path : String)
  /-- A source cannot be read, or its values do not fit. -/
  | load (text : String)
  /-- A value is out of bounds. -/
  | invalidValue (field value context : String)
  deriving DecidableEq, Inhabited

/-- The text shown to operators. -/
def Error.message : Error → String
  | fileNotFound path => s!"Configuration file not found: {path}"
  | load text => s!"Failed to load configuration: {text}"
  | invalidValue field value context => s!"Invalid value '{value}' for field '{field}': {context}"

/-- The same reason as a failure of the queue. -/
def Error.toFailure (e : Error) : Failure := .configuration e.message

/-- Refuses a value unless a condition holds. -/
def require (condition : Bool) (field value context : String) : Except Error Unit :=
  if condition then .ok () else .error (.invalidValue field value context)

/-- Each entry is a valid type, and no name occurs twice; `seen` holds the names before. -/
def validateTypes : List String → List TaskTypeEntry → Except Error Unit
  | _, [] => .ok ()
  | seen, entry :: rest =>
    match entry.toNew.validate with
    | .error failure => .error (.invalidValue "task_types" entry.name failure.message)
    | .ok () =>
      if entry.name ∈ seen then
        .error (.invalidValue "task_types" entry.name "task type declared more than once")
      else validateTypes (entry.name :: seen) rest

/-- Whether a number lies between zero and one. -/
def isShare (x : Binary64) : Bool := Binary64.zero.le x && x.le (Binary64.ofNat 1)

/-- Refuses settings that a worker or a store cannot work with. -/
def validate (s : Settings) : Except Error Unit := do
  require (!Text.isBlank s.database.url) "database.url" "" "database URL cannot be empty"
  require (s.database.maxConnections ≠ 0) "database.max_connections"
    (toString s.database.maxConnections) "must be at least 1"
  require (s.worker.batchSize ≠ 0) "worker.batch_size"
    (toString s.worker.batchSize) "must be at least 1"
  require (s.worker.maxConcurrency ≠ 0) "worker.max_concurrency"
    (toString s.worker.maxConcurrency) "must be at least 1"
  require (s.worker.pollIntervalMs ≠ 0) "worker.poll_interval_ms"
    (toString s.worker.pollIntervalMs) "must be greater than zero"
  require (0 ≤ s.backoff.maxDelaySeconds && s.backoff.maxDelaySeconds ≤ Backoff.maxDelay)
    "backoff.max_delay_seconds" (toString s.backoff.maxDelaySeconds)
    s!"must be between 0 and {Backoff.maxDelay}"
  require (s.monitor.checkIntervalSeconds ≠ 0) "monitor.check_interval_seconds"
    (toString s.monitor.checkIntervalSeconds) "must be greater than zero"
  require (isShare s.monitor.failureRate) "monitor.failure_rate"
    s.monitor.failureRate.positional "must be between 0.0 and 1.0"
  validateTypes [] s.taskTypes

end WorkQueue.Settings
