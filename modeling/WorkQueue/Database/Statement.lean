import WorkQueue.Dependency
import WorkQueue.Filter
import WorkQueue.LogEntry
import WorkQueue.Page
import WorkQueue.TaskType

/-!
# Database statements

The statements that a queue sends to its database: their texts, the values that they bind, and the
kind of rows that answer them.

## Main definitions

* `Database.Row`: the kinds of rows
* `Database.Statement`: the statements
* `Database.Statement.text`, `values`, `kind`: what is sent, and what comes back
-/

namespace WorkQueue.Database

/-! ### Rows -/

/-- A row of the table of tasks; its status is any text. -/
structure TaskRow where
  id : Uuid
  taskType : String
  payload : Json
  resourceId : Option String
  priority : Int
  status : String
  attempts : Int
  scheduledFor : Timestamp
  nextAttemptAt : Option Timestamp
  lastError : Option String
  claimedBy : Option String
  createdAt : Timestamp
  updatedAt : Timestamp
  completedAt : Option Timestamp
  deriving Inhabited

/-- The task that a row holds; its status has to be known. -/
def TaskRow.toTask (r : TaskRow) : Outcome Task :=
  match Status.ofText? r.status with
  | none => .error (.database (Status.unknownText r.status))
  | some status => .ok {
      id := r.id
      taskType := r.taskType
      payload := r.payload
      resourceId := r.resourceId
      priority := r.priority
      status := status
      attempts := r.attempts
      scheduledFor := r.scheduledFor
      nextAttemptAt := r.nextAttemptAt
      lastError := r.lastError
      claimedBy := r.claimedBy
      createdAt := r.createdAt
      updatedAt := r.updatedAt
      completedAt := r.completedAt }

/-- The row that holds a task. -/
def TaskRow.ofTask (t : Task) : TaskRow where
  id := t.id
  taskType := t.taskType
  payload := t.payload
  resourceId := t.resourceId
  priority := t.priority
  status := t.status.name
  attempts := t.attempts
  scheduledFor := t.scheduledFor
  nextAttemptAt := t.nextAttemptAt
  lastError := t.lastError
  claimedBy := t.claimedBy
  createdAt := t.createdAt
  updatedAt := t.updatedAt
  completedAt := t.completedAt

/-- A row of the task log; its level is any text. -/
structure LogRow where
  id : Int
  task : Uuid
  level : String
  message : String
  recordedAt : Timestamp
  deriving Inhabited

/-- The entry that a row holds; its level has to be known. -/
def LogRow.toEntry (r : LogRow) : Outcome LogEntry :=
  match LogLevel.ofText? r.level with
  | none => .error (.database (LogLevel.unknownText r.level))
  | some level => .ok ⟨r.id, r.task, level, r.message, r.recordedAt⟩

/-- The kinds of rows. -/
inductive Kind where
  | tasks
  | types
  | edges
  | logs
  | counts
  | text
  | bool
  | int
  /-- No rows are looked at. -/
  | none
  deriving DecidableEq, Inhabited, Repr

/-- A row of a kind. -/
def Kind.Row : Kind → Type
  | tasks => TaskRow
  | types => TaskType
  | edges => Dependency
  | logs => LogRow
  | counts => String × Int
  | text => String
  | bool => Bool
  | int => Int
  | none => Unit

/-! ### Values -/

/-- A value bound to a statement. -/
inductive Value where
  | null
  | text (s : String)
  | integer (n : Int)
  | uuid (id : Uuid)
  | texts (ss : List String)
  | json (value : Json)
  | instant (t : Timestamp)
  deriving Inhabited

namespace Value

def ofText? : Option String → Value
  | none => null
  | some s => text s

def ofInstant? : Option Timestamp → Value
  | none => null
  | some t => instant t

/-- The value as it is sent: instants in whole microseconds. -/
def toJson : Value → Json
  | null => .null
  | text s => .text s
  | integer n => .int n
  | uuid id => .text id.toText
  | texts ss => .array (ss.map .text)
  | json value => value
  | instant t => .text t.truncate.toText

end Value

/-! ### Statements -/

/-- The statements on rows. -/
inductive Statement where
  /-- The name of a task type, if it is registered. -/
  | typeName (name : String)
  | insertTask (t : Task)
  /-- Tells listening workers that a task of a type was enqueued. -/
  | notifyEnqueued (taskType : String)
  /-- Claims due tasks for a worker. -/
  | claimTasks (worker : String) (limit : Nat)
  /-- Starts a claimed task. -/
  | startTask (id : Uuid)
  /-- Completes a started task. -/
  | completeTask (id : Uuid)
  /-- Reads a task and locks its row. -/
  | lockTask (id : Uuid)
  | typeByName (name : String)
  /-- Stores a failure. -/
  | failTask (id : Uuid) (message : String) (next completed : Option Timestamp) (now : Timestamp)
  | cancelTask (id : Uuid)
  | taskById (id : Uuid)
  | countTasks (filter : Filter)
  | listTasks (filter : Filter) (request : PageRequest)
  | countStatuses
  | upsertType (t : NewTaskType)
  | listTypes
  | insertEdge (e : Dependency)
  /-- Lets one session at a time insert checked edges. -/
  | lockEdges
  /-- Reads the status of a task and locks its row. -/
  | lockStatus (id : Uuid)
  | taskExists (id : Uuid)
  /-- Whether the second task is reached from the first one along edges. -/
  | reaches (start goal : Uuid)
  /-- Stores an edge, or reads the one stored already. -/
  | upsertEdge (task prerequisite : Uuid)
  | edgesOf (id : Uuid)
  | isSatisfied (id : Uuid)
  | insertLog (entry : NewLogEntry)
  | logOf (id : Uuid)
  | health

/-- The columns of a task. -/
def taskColumns : List String :=
  ["id", "task_type", "payload", "resource_id", "priority", "status", "attempts", "scheduled_for",
    "next_attempt_at", "last_error", "claimed_by", "created_at", "updated_at", "completed_at"]

def columnsText : String := ", ".intercalate taskColumns

/-- The columns of a task type. -/
def typeColumns : String := "name, max_attempts, retry_backoff_seconds, description, created_at"

/-- The channel on which enqueued tasks are announced. -/
def enqueueChannel : String := "task_queue_enqueued"

/-- The key of the lock that `lockEdges` takes. -/
def edgeLockKey : Int := 0x7461736b5f646570

/-- The conditions of a filter with their values, in the order in which they are written. -/
def filterConditions (f : Filter) : List (String × Value) :=
  (f.status.toList.map fun s => ("status =", Value.text s.name)) ++
    (f.taskType.toList.map fun name => ("task_type =", Value.text name)) ++
    (f.createdFrom.toList.map fun start => ("created_at >=", Value.instant start)) ++
    (f.createdUntil.toList.map fun stop => ("created_at <", Value.instant stop))

/-- The conditions as text, numbered from one. -/
def filterText (f : Filter) : String :=
  String.join ("WHERE TRUE" ::
    (filterConditions f).zipIdx.map fun ((condition, _), i) => s!" AND {condition} ${i + 1}")

def filterValues (f : Filter) : List Value := (filterConditions f).map (·.2)

/-- The statement that claims tasks: due tasks without open prerequisites are locked in claim order,
rows that others hold are passed over, and the updated rows come back in claim order. -/
def claimText : String :=
  let returning := ", ".intercalate (taskColumns.map fun column => s!"t.{column}")
  " ".intercalate
    ["WITH claimable AS (",
      "SELECT c.id, c.priority, COALESCE(c.next_attempt_at, c.scheduled_for) AS ready_at,",
      "c.created_at FROM tasks c JOIN task_types tt ON tt.name = c.task_type WHERE (",
      "(c.status = 'pending' AND c.scheduled_for <= NOW())",
      "OR ( c.status = 'failed' AND c.completed_at IS NULL AND c.next_attempt_at <= NOW()",
      "AND c.attempts < tt.max_attempts ) )",
      "AND NOT EXISTS ( SELECT 1 FROM task_dependencies d",
      "JOIN tasks p ON p.id = d.depends_on_task_id",
      "WHERE d.task_id = c.id AND p.status <> 'completed' )",
      "ORDER BY c.priority DESC, ready_at, c.created_at LIMIT $2",
      "FOR UPDATE OF c SKIP LOCKED ),",
      "claimed AS ( UPDATE tasks AS t SET status = 'claimed', claimed_by = $1,",
      "next_attempt_at = NULL, updated_at = NOW() FROM claimable WHERE t.id = claimable.id",
      s!"RETURNING {returning} )",
      "SELECT claimed.* FROM claimed JOIN claimable ON claimable.id = claimed.id",
      "ORDER BY claimable.priority DESC, claimable.ready_at, claimable.created_at"]

/-- An update of one task that applies in given statuses only. -/
def guardedUpdateText (assignments : String) : String :=
  s!"UPDATE tasks SET {assignments}, updated_at = NOW() WHERE id = $1 AND status = ANY($2) " ++
    s!"RETURNING {columnsText}"

/-- The names of the statuses from which an action applies. -/
def sourceNames : List Status → Value := fun statuses => .texts (statuses.map (·.name))

namespace Statement

/-- The text of a statement. -/
def text : Statement → String
  | typeName _ => "SELECT name FROM task_types WHERE name = $1"
  | insertTask _ =>
    "INSERT INTO tasks (id, task_type, payload, resource_id, priority, status, attempts, " ++
      "scheduled_for, created_at, updated_at) VALUES ($1, $2, $3, $4, $5, $6, 0, $7, $8, $8) " ++
      s!"RETURNING {columnsText}"
  | notifyEnqueued _ => "SELECT pg_notify($1, $2)"
  | claimTasks .. => claimText
  | startTask _ => guardedUpdateText "status = 'processing', attempts = attempts + 1"
  | completeTask _ => guardedUpdateText "status = 'completed', completed_at = NOW()"
  | lockTask _ => s!"SELECT {columnsText} FROM tasks WHERE id = $1 FOR UPDATE"
  | typeByName _ => s!"SELECT {typeColumns} FROM task_types WHERE name = $1"
  | failTask .. =>
    "UPDATE tasks SET status = 'failed', last_error = $2, next_attempt_at = $3, " ++
      s!"completed_at = $4, updated_at = $5 WHERE id = $1 RETURNING {columnsText}"
  | cancelTask _ =>
    "UPDATE tasks SET status = 'cancelled', next_attempt_at = NULL, completed_at = NOW(), " ++
      "updated_at = NOW() WHERE id = $1 AND (status IN ('pending', 'claimed', 'processing') " ++
      s!"OR (status = 'failed' AND completed_at IS NULL)) RETURNING {columnsText}"
  | taskById _ => s!"SELECT {columnsText} FROM tasks WHERE id = $1"
  | countTasks filter => s!"SELECT COUNT(*) FROM tasks {filterText filter}"
  | listTasks filter _ =>
    let count := (filterConditions filter).length
    s!"SELECT {columnsText} FROM tasks {filterText filter} " ++
      s!"ORDER BY created_at DESC, id LIMIT ${count + 1} OFFSET ${count + 2}"
  | countStatuses => "SELECT status, COUNT(*) FROM tasks GROUP BY status"
  | upsertType _ =>
    "INSERT INTO task_types (name, max_attempts, retry_backoff_seconds, description) " ++
      "VALUES ($1, $2, $3, $4) ON CONFLICT (name) DO UPDATE " ++
      "SET max_attempts = EXCLUDED.max_attempts, " ++
      "retry_backoff_seconds = EXCLUDED.retry_backoff_seconds, " ++
      s!"description = EXCLUDED.description RETURNING {typeColumns}"
  | listTypes => s!"SELECT {typeColumns} FROM task_types ORDER BY name"
  | insertEdge _ =>
    "INSERT INTO task_dependencies (task_id, depends_on_task_id, created_at) VALUES ($1, $2, $3)"
  | lockEdges => "SELECT pg_advisory_xact_lock($1)"
  | lockStatus _ => "SELECT status FROM tasks WHERE id = $1 FOR UPDATE"
  | taskExists _ => "SELECT EXISTS (SELECT 1 FROM tasks WHERE id = $1)"
  | reaches .. =>
    "WITH RECURSIVE reachable(id) AS ( SELECT depends_on_task_id FROM task_dependencies " ++
      "WHERE task_id = $1 UNION SELECT d.depends_on_task_id FROM task_dependencies d " ++
      "JOIN reachable r ON d.task_id = r.id ) " ++
      "SELECT EXISTS (SELECT 1 FROM reachable WHERE id = $2)"
  | upsertEdge .. =>
    "INSERT INTO task_dependencies (task_id, depends_on_task_id) VALUES ($1, $2) " ++
      "ON CONFLICT (task_id, depends_on_task_id) DO UPDATE SET task_id = EXCLUDED.task_id " ++
      "RETURNING task_id, depends_on_task_id, created_at"
  | edgesOf _ =>
    "SELECT task_id, depends_on_task_id, created_at FROM task_dependencies " ++
      "WHERE task_id = $1 ORDER BY created_at, depends_on_task_id"
  | isSatisfied _ =>
    "SELECT NOT EXISTS ( SELECT 1 FROM task_dependencies d " ++
      "JOIN tasks p ON p.id = d.depends_on_task_id " ++
      "WHERE d.task_id = t.id AND p.status <> 'completed' ) FROM tasks t WHERE t.id = $1"
  | insertLog _ => "INSERT INTO task_logs (task_id, level, message) VALUES ($1, $2, $3)"
  | logOf _ =>
    "SELECT id, task_id, level, message, recorded_at FROM task_logs WHERE task_id = $1 ORDER BY id"
  | health => "SELECT 1 as health"

/-- The values that a statement binds, in the order of their numbers. -/
def values : Statement → List Value
  | typeName name => [.text name]
  | insertTask t =>
    [.uuid t.id, .text t.taskType, .json t.payload, .ofText? t.resourceId, .integer t.priority,
      .text t.status.name, .instant t.scheduledFor, .instant t.createdAt]
  | notifyEnqueued taskType => [.text enqueueChannel, .text taskType]
  | claimTasks worker limit => [.text worker, .integer limit]
  | startTask id => [.uuid id, sourceNames [.claimed]]
  | completeTask id => [.uuid id, sourceNames [.processing]]
  | lockTask id => [.uuid id]
  | typeByName name => [.text name]
  | failTask id message next completed now =>
    [.uuid id, .text message, .ofInstant? next, .ofInstant? completed, .instant now]
  | cancelTask id => [.uuid id]
  | taskById id => [.uuid id]
  | countTasks filter => filterValues filter
  | listTasks filter request =>
    filterValues filter ++ [.integer request.limit, .integer request.offset]
  | countStatuses => []
  | upsertType t =>
    [.text t.name, .integer t.maxAttempts, .integer t.retryBackoffSeconds,
      .ofText? t.description]
  | listTypes => []
  | insertEdge e => [.uuid e.task, .uuid e.prerequisite, .instant e.createdAt]
  | lockEdges => [.integer edgeLockKey]
  | lockStatus id => [.uuid id]
  | taskExists id => [.uuid id]
  | reaches start goal => [.uuid start, .uuid goal]
  | upsertEdge task prerequisite => [.uuid task, .uuid prerequisite]
  | edgesOf id => [.uuid id]
  | isSatisfied id => [.uuid id]
  | insertLog entry => [.uuid entry.task, .text entry.level.name, .text entry.message]
  | logOf id => [.uuid id]
  | health => []

/-- The kind of rows that answer a statement. -/
def kind : Statement → Kind
  | typeName _ => .text
  | insertTask _ => .tasks
  | notifyEnqueued _ => .none
  | claimTasks .. => .tasks
  | startTask _ => .tasks
  | completeTask _ => .tasks
  | lockTask _ => .tasks
  | typeByName _ => .types
  | failTask .. => .tasks
  | cancelTask _ => .tasks
  | taskById _ => .tasks
  | countTasks _ => .int
  | listTasks .. => .tasks
  | countStatuses => .counts
  | upsertType _ => .types
  | listTypes => .types
  | insertEdge _ => .none
  | lockEdges => .none
  | lockStatus _ => .text
  | taskExists _ => .bool
  | reaches .. => .bool
  | upsertEdge .. => .edges
  | edgesOf _ => .edges
  | isSatisfied _ => .bool
  | insertLog _ => .none
  | logOf _ => .logs
  | health => .int

/-- A row that answers a statement. -/
abbrev Row (s : Statement) : Type := s.kind.Row

end Statement

end WorkQueue.Database
