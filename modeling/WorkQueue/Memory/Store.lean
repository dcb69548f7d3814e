import WorkQueue.Backend
import WorkQueue.Memory.Update

/-!
# Storage in memory

The storage operations on a `Memory.State` and a log in memory. Every operation is one update of the
rows, followed by its log entries.

## Main definitions

* `Memory.Log`: the log, and the failures that its accesses meet
* `Memory`: state and log together
* `Memory.backend`: the storage operations
-/

namespace WorkQueue

/-- A task log in memory. -/
structure Memory.Log where
  entries : List LogEntry := []
  /-- How many reads and writes have been tried. -/
  accesses : Nat := 0
  /-- The failure that the access with a number meets, if any. -/
  trouble : Nat → Option Failure := fun _ => none

/-- A storage in memory. -/
structure Memory where
  state : Memory.State := {}
  log : Memory.Log := {}

namespace Memory

/-- Appends an entry with the next number, unless the access fails. -/
def Log.write (log : Log) (entry : NewLogEntry) (now : Timestamp) : Outcome Unit × Log :=
  match log.trouble log.accesses with
  | some failure => (.error failure, { log with accesses := log.accesses + 1 })
  | none =>
    let stored : LogEntry :=
      ⟨log.entries.length + 1, entry.task, entry.level, entry.message, now⟩
    (.ok (), { log with entries := log.entries ++ [stored], accesses := log.accesses + 1 })

/-- The entries of a task, oldest first, unless the access fails. -/
def Log.read (log : Log) (task : Uuid) : Outcome (List LogEntry) × Log :=
  let next := { log with accesses := log.accesses + 1 }
  match log.trouble log.accesses with
  | some failure => (.error failure, next)
  | none => (.ok (log.entries.filter fun e => e.task = task), next)

section

variable {m : Type → Type} [Monad m] [Host m] [MonadStateOf Memory m]

/-- The rows. -/
def rows : m State := do return (← getThe Memory).state

/-- Replaces the rows. -/
def setRows (s : State) : m Unit := modifyThe Memory fun memory => { memory with state := s }

/-- Writes a log entry. -/
def writeLog (entry : NewLogEntry) : m (Outcome Unit) := do
  let now ← Host.now
  modifyGetThe Memory fun memory =>
    let (result, log) := memory.log.write entry now
    (result, { memory with log := log })

/-- Reads the log entries of a task. -/
def readLog (task : Uuid) : m (Outcome (List LogEntry)) :=
  modifyGetThe Memory fun memory =>
    let (result, log) := memory.log.read task
    (result, { memory with log := log })

/-- Carries out an update. The rows that it leaves are stored, whether it has failed or not. -/
def perform {α : Type} (update : Timestamp → Update α) : m (Outcome α) := do
  let now ← Host.now
  let (result, s) := (update now).on (← rows)
  setRows s
  return result

/-- Carries out a transition of a task and writes its log entry. -/
def performTransition (transition : Transition) (update : Timestamp → Update Task) :
    m (Outcome Task) := do
  match ← perform update with
  | .error failure => return .error failure
  | .ok t =>
    recordTransition writeLog transition t
    return .ok t

/-- Stores a task; an identifier is drawn for an accepted request only. -/
def enqueue (spec : NewTask) : m (Outcome Task) := do
  match (← rows).prepare spec with
  | .error failure => return .error failure
  | .ok _ =>
    let id ← Host.freshId
    match ← perform (Update.enqueue spec id) with
    | .error failure => return .error failure
    | .ok t =>
      Host.report .debug "task_queue::store::memory" "Task enqueued"
        [("task_id", .shown (toString t.id))]
      return .ok t

/-- Stores a chain; identifiers are drawn for accepted requests only. -/
def createChain (specs : List NewTask) : m (Outcome (List Task)) := do
  match specs.mapM (← rows).prepare with
  | .error failure => return .error failure
  | .ok _ =>
    let ids ← specs.mapM fun _ => Host.freshId
    perform (Update.createChain specs ids)

/-- Claims tasks and writes an entry for each one, in claim order. -/
def claim (worker : String) (limit : Nat) : m (Outcome (List Task)) := do
  let now ← Host.now
  let (claimed, s) := (← rows).claim worker limit now
  setRows s
  for t in claimed do
    recordTransition writeLog .claim t
  return .ok claimed

/-- The storage operations in memory, with a retry policy. -/
def backend (policy : Backoff.Policy) : Backend m where
  enqueue := enqueue
  claim := claim
  start id := performTransition .start (Update.start id)
  complete id := performTransition .complete (Update.complete id)
  fail id message := performTransition (.fail message) (Update.fail policy id message)
  cancel id := performTransition .cancel (Update.cancel id)
  find id := do return .ok ((← rows).find? id)
  list filter request := do return .ok ((← rows).list filter request)
  metrics := do return .ok (← rows).metrics
  upsertType t := perform (Update.upsertType t)
  findType name := do return .ok ((← rows).findType? name)
  listTypes := do return .ok (← rows).listTypes
  createChain := createChain
  addDependency task prerequisite :=
    perform (Update.addDependency task prerequisite)
  dependenciesOf id := do return (← rows).dependenciesOf id
  isSatisfied id := do return (← rows).satisfied id
  writeLog := writeLog
  readLog := readLog

end

end Memory

end WorkQueue
