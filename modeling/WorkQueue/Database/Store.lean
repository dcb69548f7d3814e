import WorkQueue.Backend
import WorkQueue.Backoff
import WorkQueue.Database.Session
import WorkQueue.Lifecycle

/-!
# Storage in a database

The storage operations as database sessions. Operations of several statements run inside one
transaction, which is committed when every check has passed. A status change is an update that
applies in the action's source statuses only; when no row is updated, the row is read again to say
why.

## Main definitions

* `Database.backend`: the storage operations
-/

namespace WorkQueue.Database

open Session

/-- Where this storage reports from. -/
def source : String := "task_queue::store::postgres"

/-! ### Rows as results -/

/-- The tasks that rows hold, up to the first unknown status. -/
def toTasks (rows : List TaskRow) : Outcome (List Task) := rows.mapM (·.toTask)

/-- The task that an optional row holds. -/
def toTask? : Option TaskRow → Outcome (Option Task)
  | none => .ok none
  | some row => row.toTask.map some

/-- The status with a stored text. -/
def toStatus (s : String) : Outcome Status :=
  match Status.ofText? s with
  | some status => .ok status
  | none => .error (.database (Status.unknownText s))

/-- A result of a part. -/
def lift {α : Type} (result : Outcome α) : Fallible α := ExceptT.mk (Session.done result)

/-! ### The task log -/

/-- Writes a log entry. -/
def writeLog (entry : NewLogEntry) : Session (Outcome Unit) :=
  (attempt (execute (.insertLog entry))).run

/-- Reads the log entries of a task. -/
def readLog (id : Uuid) : Session (Outcome (List LogEntry)) := ExceptT.run do
  let rows : List LogRow ← attempt (Session.rows (.logOf id))
  lift (rows.mapM (·.toEntry))

/-- Writes the entry of a transition, then answers with the task. -/
def recorded (transition : Transition) (t : Task) : Fallible Task := do
  (recordTransition writeLog transition t : Session Unit)
  return t

/-! ### Reading tasks -/

/-- The task with an identifier. -/
def find (id : Uuid) : Fallible (Option Task) := do
  let row : Option TaskRow ← attempt (optionalRow (.taskById id))
  lift (toTask? row)

/-- Explains an update that matched no row. -/
def rejected {α : Type} (id : Uuid) (action : Action) : Fallible α := do
  let current ← find id
  throw (.ofRejected id current action)

/-! ### Creating tasks -/

/-- Checks a request and inserts its row. -/
def insertTask (spec : NewTask) : Fallible Task := do
  let spec ← lift spec.validate
  let known : Option String ← attempt (optionalRow (.typeName spec.taskType))
  if known.isNone then throw (.invalidTaskType spec.taskType)
  let id ← (Host.freshId : Session Uuid)
  let now ← (Host.now : Session Timestamp)
  let row : TaskRow ← attempt (oneRow (.insertTask (Task.ofNew spec id now)))
  lift row.toTask

/-- Announces a new task to listening workers. -/
def announce (taskType : String) : Fallible Unit := attempt (execute (.notifyEnqueued taskType))

/-- Stores a task. -/
def enqueue (spec : NewTask) : Fallible Task := do
  let t ← transaction do
    let t ← insertTask spec
    announce t.taskType
    return t
  (Host.report .debug source "Task enqueued" [("task_id", .shown (toString t.id))] : Session Unit)
  return t

/-- Inserts tasks, each with the edge to the one before it. -/
def insertChain : Option Task → List NewTask → Fallible (List Task)
  | _, [] => return []
  | previous, spec :: rest => do
    let t ← insertTask spec
    match previous with
    | none => pure ()
    | some before => attempt (execute (.insertEdge ⟨t.id, before.id, t.createdAt⟩))
    let others ← insertChain (some t) rest
    return t :: others

/-- Stores a chain of tasks. -/
def createChain (specs : List NewTask) : Fallible (List Task) :=
  if specs.isEmpty then return []
  else transaction do
    let ts ← insertChain none specs
    match ts with
    | [] => pure ()
    | head :: _ => announce head.taskType
    return ts

/-! ### Claiming -/

/-- Writes the log entries of claimed tasks. -/
def recordClaims : List Task → Session Unit
  | [] => return ()
  | t :: rest => do
    recordTransition writeLog .claim t
    recordClaims rest

/-- Claims tasks; with a limit of zero nothing is sent. -/
def claim (worker : String) (limit : Nat) : Session (Outcome (List Task)) := do
  if limit = 0 then return .ok []
  match ← Session.rows (.claimTasks worker limit) with
  | .error trouble =>
    Host.report .error source "Failed to claim tasks"
      [("worker_id", .shown worker), ("limit", .integer limit), ("error", .shown trouble.message)]
    return .error (.database s!"Failed to claim tasks: {trouble.message}")
  | .ok rows =>
    match toTasks rows with
    | .error failure => return .error failure
    | .ok ts =>
      recordClaims ts
      unless ts.isEmpty do
        Host.report .debug source "Claimed tasks" [("claimed", .integer ts.length)]
      return .ok ts

/-! ### Transitions -/

/-- Sends an update that applies in the sources of an action only, and records its transition. -/
def guardedUpdate (id : Uuid) (transition : Transition)
    (update : Session (Except Trouble (Option TaskRow))) : Session (Outcome Task) := do
  let action := transition.action
  match ← update with
  | .error trouble =>
    Host.report .error source "Task transition query failed"
      [("task_id", .shown (toString id)), ("event", .quoted action.name),
        ("error", .shown trouble.message)]
    return .error (.database s!"Failed to apply {action.name}: {trouble.message}")
  | .ok none => (rejected id action).run
  | .ok (some row) => ExceptT.run do
    let t ← lift row.toTask
    recorded transition t

/-- Starts a claimed task. -/
def start (id : Uuid) : Session (Outcome Task) :=
  guardedUpdate id .start (optionalRow (.startTask id))

/-- Completes a started task. -/
def complete (id : Uuid) : Session (Outcome Task) :=
  guardedUpdate id .complete (optionalRow (.completeTask id))

/-- Checks the locked row of a task and stores its failure. -/
def storeFailure (policy : Backoff.Policy) (id : Uuid) (message : String) : Fallible TaskRow := do
  let row : Option TaskRow ← attempt (optionalRow (.lockTask id))
  match ← lift (toTask? row) with
  | none => throw (.taskNotFound id)
  | some current =>
    let _ ← lift (current.target? .fail)
    let type : Option TaskType ← attempt (optionalRow (.typeByName current.taskType))
    match type with
    | none => throw (.invalidTaskType current.taskType)
    | some type =>
      let now ← (Host.now : Session Timestamp)
      let (next, completed) := policy.failureSchedule type current.attempts now
      attempt (oneRow (.failTask id message next completed now))

/-- Fails a started task. -/
def fail (policy : Backoff.Policy) (id : Uuid) (message : String) : Fallible Task := do
  let row ← transaction (storeFailure policy id message)
  let t ← lift row.toTask
  recorded (.fail message) t

/-- Cancels a task that is not terminal. -/
def cancel (id : Uuid) : Fallible Task := do
  let row : Option TaskRow ← attempt (optionalRow (.cancelTask id))
  match row with
  | none => rejected id .cancel
  | some row =>
    let t ← lift row.toTask
    (Host.report .info source "Task cancelled"
      [("task_id", .shown (toString id)), ("task_type", .shown t.taskType)] : Session Unit)
    recorded .cancel t

/-! ### Listings -/

/-- A page of the accepted tasks. -/
def list (filter : Filter) (request : PageRequest) : Fallible (Page Task) := do
  let total : Int ← attempt (oneRow (.countTasks filter))
  let rows : List TaskRow ← attempt (Session.rows (.listTasks filter request))
  let ts ← lift (toTasks rows)
  return .make ts total.toNat request

/-- The number of tasks of each status. -/
def metrics : Fallible Metrics := do
  let rows : List (String × Int) ← attempt (Session.rows .countStatuses)
  let counts ← lift (rows.mapM fun (name, count) => (toStatus name).map fun s => (s, count))
  return .ofCounts counts

/-! ### Task types -/

/-- Stores a task type. -/
def upsertType (t : NewTaskType) : Fallible TaskType := do
  lift t.validate
  attempt (oneRow (.upsertType t))

/-! ### Prerequisites -/

/-- Checks an edge against the locked rows and stores it. -/
def insertCheckedEdge (task prerequisite : Uuid) : Fallible Dependency := do
  attempt (execute .lockEdges)
  let row : Option String ← attempt (optionalRow (.lockStatus task))
  match row with
  | none => throw (.taskNotFound task)
  | some name =>
    let status ← lift (toStatus name)
    let known : Bool ← attempt (oneRow (.taskExists prerequisite))
    if !known then throw (.taskNotFound prerequisite)
    if status ≠ .pending then
      throw (.invalidDependency
        s!"task {task} is {status} and can no longer gain prerequisites")
    if task = prerequisite then throw (.cycleDetected task prerequisite)
    let closes : Bool ← attempt (oneRow (.reaches prerequisite task))
    if closes then
      (Host.report .warn source "Rejected dependency cycle"
        [("task_id", .shown (toString task)), ("depends_on", .shown (toString prerequisite))] :
        Session Unit)
      throw (.cycleDetected task prerequisite)
    attempt (oneRow (.upsertEdge task prerequisite))

/-- Makes a pending task wait for another one. -/
def addDependency (task prerequisite : Uuid) : Fallible Dependency :=
  transaction (insertCheckedEdge task prerequisite)

/-- The edges to the prerequisites of a task. -/
def dependenciesOf (id : Uuid) : Fallible (List Dependency) := do
  if (← find id).isNone then throw (.taskNotFound id)
  attempt (Session.rows (.edgesOf id))

/-- Whether all prerequisites of a task are completed. -/
def isSatisfied (id : Uuid) : Fallible Bool := do
  let row : Option Bool ← attempt (optionalRow (.isSatisfied id))
  match row with
  | none => throw (.taskNotFound id)
  | some satisfied => return satisfied

/-- The storage operations in a database, with a retry policy. -/
def backend (policy : Backoff.Policy) : Backend Session where
  enqueue spec := (enqueue spec).run
  claim := claim
  start := start
  complete := complete
  fail id message := (fail policy id message).run
  cancel id := (cancel id).run
  find id := (find id).run
  list filter request := (list filter request).run
  metrics := metrics.run
  upsertType t := (upsertType t).run
  findType name := (attempt (optionalRow (.typeByName name))).run
  listTypes := (attempt (Session.rows .listTypes)).run
  createChain specs := (createChain specs).run
  addDependency task prerequisite := (addDependency task prerequisite).run
  dependenciesOf id := (dependenciesOf id).run
  isSatisfied id := (isSatisfied id).run
  writeLog := writeLog
  readLog := readLog

end WorkQueue.Database
