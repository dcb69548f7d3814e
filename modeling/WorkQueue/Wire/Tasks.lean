import WorkQueue.Dependency
import WorkQueue.Filter
import WorkQueue.LogEntry
import WorkQueue.Monitor
import WorkQueue.Page
import WorkQueue.Producer
import WorkQueue.Wire.Decoder

/-!
# Wire forms of tasks

How tasks, task types, edges, log entries, filters, pages and reports are written as JSON, and how
the ones that are also read are decoded.

## Main definitions

* for each type a pair `Wire.ofTask`, `Wire.task` and so on: writing and reading
-/

namespace WorkQueue.Wire

/-! ### Enumerations -/

def ofStatus (s : Status) : Json := .text s.name

def status : Json → Decode Status := named Status.ofText?

def ofLogLevel (l : LogLevel) : Json := .text l.name

def logLevel : Json → Decode LogLevel := named LogLevel.ofText?

/-- A transition: its tag, and as data the message of a failure. -/
def ofTransition (t : Transition) : Json :=
  .object (("type", .text t.action.tag) :: t.message?.toList.map fun m => ("data", .text m))

/-- The action with a wire name. -/
def action : Json → Decode Action :=
  named fun s => Action.all.find? fun a => a.tag = s

/-- The transition of an action with its data, which only a failure has. -/
def transitionOf : Action → Option Json → Decode Transition
  | .fail, some (.text message) => .ok (.fail message)
  | .fail, _ => .error .malformed
  | .claim, none | .claim, some .null => .ok .claim
  | .start, none | .start, some .null => .ok .start
  | .complete, none | .complete, some .null => .ok .complete
  | .cancel, none | .cancel, some .null => .ok .cancel
  | _, _ => .error .malformed

def transitionFields : List String := ["type", "data"]

/-- An object with `type` and `data`, or an array of the two. -/
def transition (j : Json) : Decode Transition := do
  let r ← record transitionFields j
  let tag ← r.required "type" action
  let data := r.find? "data"
  if r.positional && data.isNone then .error .malformed else transitionOf tag data

/-! ### Tasks -/

def ofTask (t : Task) : Json := .object [
  ("id", ofUuid t.id),
  ("task_type", .text t.taskType),
  ("payload", t.payload),
  ("resource_id", .ofText? t.resourceId),
  ("priority", .int t.priority),
  ("status", ofStatus t.status),
  ("attempts", .int t.attempts),
  ("scheduled_for", ofInstant t.scheduledFor),
  ("next_attempt_at", ofInstant? t.nextAttemptAt),
  ("last_error", .ofText? t.lastError),
  ("claimed_by", .ofText? t.claimedBy),
  ("created_at", ofInstant t.createdAt),
  ("updated_at", ofInstant t.updatedAt),
  ("completed_at", ofInstant? t.completedAt)]

def taskFields : List String :=
  ["id", "task_type", "payload", "resource_id", "priority", "status", "attempts", "scheduled_for",
    "next_attempt_at", "last_error", "claimed_by", "created_at", "updated_at", "completed_at"]

def task (j : Json) : Decode Task := do
  let r ← record taskFields j
  return {
    id := ← r.required "id" uuid
    taskType := ← r.required "task_type" text
    payload := ← r.required "payload" anything
    resourceId := ← r.optional "resource_id" text
    priority := ← r.required "priority" int32
    status := ← r.required "status" status
    attempts := ← r.required "attempts" int32
    scheduledFor := ← r.required "scheduled_for" instant
    nextAttemptAt := ← r.optional "next_attempt_at" instant
    lastError := ← r.optional "last_error" text
    claimedBy := ← r.optional "claimed_by" text
    createdAt := ← r.required "created_at" instant
    updatedAt := ← r.required "updated_at" instant
    completedAt := ← r.optional "completed_at" instant }

def ofNewTask (t : NewTask) : Json := .object [
  ("task_type", .text t.taskType),
  ("payload", t.payload),
  ("resource_id", .ofText? t.resourceId),
  ("priority", .int t.priority),
  ("scheduled_for", ofInstant? t.scheduledFor)]

def newTaskFields : List String :=
  ["task_type", "payload", "resource_id", "priority", "scheduled_for"]

def newTask (j : Json) : Decode NewTask := do
  let r ← record newTaskFields j
  return {
    taskType := ← r.required "task_type" text
    payload := ← r.required "payload" anything
    resourceId := ← r.optional "resource_id" text
    priority := ← r.defaulted "priority" NewTask.minPriority int32
    scheduledFor := ← r.optional "scheduled_for" instant }

/-! ### Task types -/

def ofTaskType (t : TaskType) : Json := .object [
  ("name", .text t.name),
  ("max_attempts", .int t.maxAttempts),
  ("retry_backoff_seconds", .int t.retryBackoffSeconds),
  ("description", .ofText? t.description),
  ("created_at", ofInstant t.createdAt)]

def taskTypeFields : List String :=
  ["name", "max_attempts", "retry_backoff_seconds", "description", "created_at"]

def taskType (j : Json) : Decode TaskType := do
  let r ← record taskTypeFields j
  return {
    name := ← r.required "name" text
    maxAttempts := ← r.required "max_attempts" int32
    retryBackoffSeconds := ← r.required "retry_backoff_seconds" int64
    description := ← r.optional "description" text
    createdAt := ← r.required "created_at" instant }

def ofNewTaskType (t : NewTaskType) : Json := .object [
  ("name", .text t.name),
  ("max_attempts", .int t.maxAttempts),
  ("retry_backoff_seconds", .int t.retryBackoffSeconds),
  ("description", .ofText? t.description)]

def newTaskTypeFields : List String :=
  ["name", "max_attempts", "retry_backoff_seconds", "description"]

def newTaskType (j : Json) : Decode NewTaskType := do
  let r ← record newTaskTypeFields j
  return {
    name := ← r.required "name" text
    maxAttempts := ← r.required "max_attempts" int32
    retryBackoffSeconds := ← r.required "retry_backoff_seconds" int64
    description := ← r.optional "description" text }

/-! ### Edges and log entries -/

def ofDependency (d : Dependency) : Json := .object [
  ("task_id", ofUuid d.task),
  ("depends_on_task_id", ofUuid d.prerequisite),
  ("created_at", ofInstant d.createdAt)]

def dependencyFields : List String := ["task_id", "depends_on_task_id", "created_at"]

def dependency (j : Json) : Decode Dependency := do
  let r ← record dependencyFields j
  return {
    task := ← r.required "task_id" uuid
    prerequisite := ← r.required "depends_on_task_id" uuid
    createdAt := ← r.required "created_at" instant }

def ofLogEntry (e : LogEntry) : Json := .object [
  ("id", .int e.id),
  ("task_id", ofUuid e.task),
  ("level", ofLogLevel e.level),
  ("message", .text e.message),
  ("recorded_at", ofInstant e.recordedAt)]

def logEntryFields : List String := ["id", "task_id", "level", "message", "recorded_at"]

def logEntry (j : Json) : Decode LogEntry := do
  let r ← record logEntryFields j
  return {
    id := ← r.required "id" int64
    task := ← r.required "task_id" uuid
    level := ← r.required "level" logLevel
    message := ← r.required "message" text
    recordedAt := ← r.required "recorded_at" instant }

def ofNewLogEntry (e : NewLogEntry) : Json := .object [
  ("task_id", ofUuid e.task),
  ("level", ofLogLevel e.level),
  ("message", .text e.message)]

def newLogEntryFields : List String := ["task_id", "level", "message"]

def newLogEntry (j : Json) : Decode NewLogEntry := do
  let r ← record newLogEntryFields j
  return {
    task := ← r.required "task_id" uuid
    level := ← r.required "level" logLevel
    message := ← r.required "message" text }

/-- A task with its prerequisites and its history. -/
def ofTaskDetail (d : TaskDetail) : Json := .object [
  ("task", ofTask d.task),
  ("dependencies", .array (d.dependencies.map ofDependency)),
  ("log", .array (d.log.map ofLogEntry))]

/-! ### Listings -/

def ofFilter (f : Filter) : Json := .object [
  ("status", (f.status.map ofStatus).getD .null),
  ("task_type", .ofText? f.taskType),
  ("created_from", ofInstant? f.createdFrom),
  ("created_until", ofInstant? f.createdUntil)]

def filterFields : List String := ["status", "task_type", "created_from", "created_until"]

def filter (j : Json) : Decode Filter := do
  let r ← record filterFields j
  return {
    status := ← r.optional "status" status
    taskType := ← r.optional "task_type" text
    createdFrom := ← r.optional "created_from" instant
    createdUntil := ← r.optional "created_until" instant }

def ofPageRequest (r : PageRequest) : Json := .object [
  ("page", .nat r.page),
  ("per_page", .nat r.perPage)]

def pageRequestFields : List String := ["page", "per_page"]

/-- A page request; one that has the right form still has to be valid. -/
def pageRequest (j : Json) : Decode PageRequest := do
  let r ← record pageRequestFields j
  let page ← r.defaulted "page" 1 nat32
  let perPage ← r.defaulted "per_page" PageRequest.defaultPerPage nat32
  match PageRequest.make page perPage with
  | .ok request => .ok request
  | .error failure => .error (.refused failure)

def ofPageMeta (p : PageMeta) : Json := .object [
  ("total", .nat p.total),
  ("per_page", .nat p.perPage),
  ("current_page", .nat p.currentPage),
  ("last_page", .nat p.lastPage),
  ("from", .nat p.from_),
  ("to", .nat p.to_)]

def pageMetaFields : List String := ["total", "per_page", "current_page", "last_page", "from", "to"]

def pageMeta (j : Json) : Decode PageMeta := do
  let r ← record pageMetaFields j
  return {
    total := ← r.required "total" nat64
    perPage := ← r.required "per_page" nat32
    currentPage := ← r.required "current_page" nat32
    lastPage := ← r.required "last_page" nat64
    from_ := ← r.required "from" nat64
    to_ := ← r.required "to" nat64 }

def ofPage {α : Type} (item : α → Json) (p : Page α) : Json := .object [
  ("data", .array (p.data.map item)),
  ("meta", ofPageMeta p.info)]

def pageFields : List String := ["data", "meta"]

def page {α : Type} (item : Json → Decode α) (j : Json) : Decode (Page α) := do
  let r ← record pageFields j
  return {
    data := ← r.required "data" (list item)
    info := ← r.required "meta" pageMeta }

/-! ### Reports -/

def ofMetrics (m : Metrics) : Json := .object [
  ("pending_tasks", .int m.pending),
  ("claimed_tasks", .int m.claimed),
  ("processing_tasks", .int m.processing),
  ("completed_tasks", .int m.completed),
  ("failed_tasks", .int m.failed),
  ("cancelled_tasks", .int m.cancelled),
  ("total_tasks", .int m.total),
  ("failure_rate", .binary m.failureRate)]

def ofAlert (a : Alert) : Json := .object [
  ("kind", .text a.kind.name),
  ("current", .binary a.current),
  ("threshold", .binary a.threshold)]

def ofReport (r : Monitor.Report) : Json := .object [
  ("metrics", ofMetrics r.metrics),
  ("alerts", .array (r.alerts.map ofAlert))]

end WorkQueue.Wire
