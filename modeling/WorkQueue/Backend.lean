import WorkQueue.Dependency
import WorkQueue.Filter
import WorkQueue.Host
import WorkQueue.LogEntry
import WorkQueue.Metrics
import WorkQueue.Page
import WorkQueue.TaskType

/-!
# Storage of a queue

The operations that a queue needs from its storage. Each one either succeeds as a whole or fails
and changes nothing; every claim, completion, failure and cancellation that is stored also writes
one log entry, as well as it can.

## Main definitions

* `Backend`: the operations
* `Backend.map`: the operations in another monad
* `appendLog`, `recordTransition`: writing to the task log; failures are reported, never returned
-/

namespace WorkQueue

/-- The operations of a storage, in a monad of effects. -/
structure Backend (m : Type → Type) where
  /-- Stores a pending task of a known type. -/
  enqueue : NewTask → m (Outcome Task)
  /-- Claims up to a number of claimable tasks for a worker, in claim order. -/
  claim : String → Nat → m (Outcome (List Task))
  /-- Starts a claimed task and counts the attempt. -/
  start : Uuid → m (Outcome Task)
  /-- Completes a started task. -/
  complete : Uuid → m (Outcome Task)
  /-- Fails a started task with a message, and schedules a retry unless its attempts are used up. -/
  fail : Uuid → String → m (Outcome Task)
  /-- Cancels a task that is not terminal. -/
  cancel : Uuid → m (Outcome Task)
  /-- The task with an identifier. -/
  find : Uuid → m (Outcome (Option Task))
  /-- A page of the accepted tasks in listing order. -/
  list : Filter → PageRequest → m (Outcome (Page Task))
  /-- The number of tasks of each status. -/
  metrics : m (Outcome Metrics)
  /-- Stores a task type, or changes the policy stored under its name. -/
  upsertType : NewTaskType → m (Outcome TaskType)
  /-- The task type with a name. -/
  findType : String → m (Outcome (Option TaskType))
  /-- All task types, by name. -/
  listTypes : m (Outcome (List TaskType))
  /-- Stores tasks of which each waits for the one before it; all of them or none. -/
  createChain : List NewTask → m (Outcome (List Task))
  /-- Makes the first task wait for the second one. -/
  addDependency : Uuid → Uuid → m (Outcome Dependency)
  /-- The edges to the prerequisites of a task. -/
  dependenciesOf : Uuid → m (Outcome (List Dependency))
  /-- Whether all prerequisites of a task are completed. -/
  isSatisfied : Uuid → m (Outcome Bool)
  /-- Writes a log entry. -/
  writeLog : NewLogEntry → m (Outcome Unit)
  /-- The log entries of a task, oldest first. -/
  readLog : Uuid → m (Outcome (List LogEntry))

/-- A storage whose operations are carried over to another monad. -/
def Backend.map {m n : Type → Type} (f : {α : Type} → m α → n α) (b : Backend m) : Backend n where
  enqueue spec := f (b.enqueue spec)
  claim worker limit := f (b.claim worker limit)
  start id := f (b.start id)
  complete id := f (b.complete id)
  fail id message := f (b.fail id message)
  cancel id := f (b.cancel id)
  find id := f (b.find id)
  list filter request := f (b.list filter request)
  metrics := f b.metrics
  upsertType t := f (b.upsertType t)
  findType name := f (b.findType name)
  listTypes := f b.listTypes
  createChain specs := f (b.createChain specs)
  addDependency task prerequisite := f (b.addDependency task prerequisite)
  dependenciesOf id := f (b.dependenciesOf id)
  isSatisfied id := f (b.isSatisfied id)
  writeLog entry := f (b.writeLog entry)
  readLog id := f (b.readLog id)

section

variable {m : Type → Type} [Monad m] [Host m]

/-- Writes an entry; a failure to do so is reported and otherwise ignored. -/
def appendLog (write : NewLogEntry → m (Outcome Unit)) (entry : NewLogEntry) : m Unit := do
  match ← write entry with
  | .ok () => pure ()
  | .error failure =>
    Host.report .error "task_queue::task_log" "Failed to append task log entry"
      [("task_id", .shown (toString entry.task)), ("level", .shown entry.level.name),
        ("log_message", .shown entry.message), ("error", .shown failure.message)]

/-- Writes the entry of a transition that has just been stored. -/
def recordTransition (write : NewLogEntry → m (Outcome Unit)) (transition : Transition)
    (t : Task) : m Unit :=
  match transition.logLine? t with
  | none => pure ()
  | some (level, message) => appendLog write ⟨t.id, level, message⟩

end

end WorkQueue
