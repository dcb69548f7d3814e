import WorkQueue.Database.Connection
import WorkQueue.Database.Store
import WorkQueue.Settings.Validation
import WorkQueue.TypeRegistry

/-!
# Opening a queue

A queue in a database is opened from its settings: they are checked, the connection is prepared, the
declared task types are registered, and the cache of types is filled.

## Main definitions

* `Database.openQueue`: the whole sequence, up to the filled cache
-/

namespace WorkQueue.Database

open Session

/-- Registers the declared types, if there are any, and fills the cache. -/
def fillRegistry (settings : Settings) : StateT TypeCache Session (Outcome Nat) := do
  let b := backend settings.backoff
  if settings.taskTypes.isEmpty then TypeRegistry.load b
  else
    match ← TypeRegistry.seed b settings.taskTypes with
    | .error failure => return .error failure
    | .ok _ => TypeRegistry.load b

/-- Opens a queue with the given settings. -/
def openQueue (settings : Settings) : Fallible TypeCache := do
  match settings.validate with
  | .error e => throw e.toFailure
  | .ok () =>
    connected settings.database
    let (result, cache) ← (fillRegistry settings).run {}
    let _ ← lift result
    (Host.report .info "task_queue::queue" "Task queue connected"
      [("task_types", .integer cache.size)] : Session Unit)
    return cache

end WorkQueue.Database
