import WorkQueue.Failure
import WorkQueue.Text.Blank
import WorkQueue.Timestamp

/-!
# Tasks

A unit of deferred work: a type, a payload for the handler, and the bookkeeping of its lifecycle.

## Main definitions

* `NewTask`, `NewTask.validate`: a task to be enqueued, and its bounds
* `Task`, `Task.ofNew`: a stored task
* `Task.isDue`, `Task.retriesExhausted`, `Task.isTerminal`: what the bookkeeping says
* `Task.claimsBefore`: the order in which tasks are claimed
-/

namespace WorkQueue

/-- A task to be enqueued. -/
structure NewTask where
  taskType : String
  payload : Json
  resourceId : Option String := none
  priority : Int := 0
  /-- The instant before which the task is not claimed; the enqueue time when absent. -/
  scheduledFor : Option Timestamp := none
  deriving Inhabited

/-- A stored task. -/
structure Task where
  id : Uuid
  taskType : String
  payload : Json
  resourceId : Option String
  /-- From zero to ten; a higher priority is claimed first. -/
  priority : Int
  status : Status
  /-- How often the handler has been started. -/
  attempts : Int
  scheduledFor : Timestamp
  /-- From when a failed task may be claimed again. -/
  nextAttemptAt : Option Timestamp
  lastError : Option String
  /-- The worker that claimed the task last. -/
  claimedBy : Option String
  createdAt : Timestamp
  updatedAt : Timestamp
  /-- When the task completed, was cancelled, or failed for good. -/
  completedAt : Option Timestamp
  deriving Inhabited

namespace NewTask

def minPriority : Int := 0

def maxPriority : Int := 10

/-- Accepts a task with a type, a priority within its bounds, and an object as payload; a payload
of null becomes the empty object. The first violation in this order is reported. -/
def validate (t : NewTask) : Outcome NewTask :=
  if Text.isBlank t.taskType then .error (.invalidTaskType "task type cannot be empty")
  else if t.priority < minPriority ∨ maxPriority < t.priority then
    .error (.validation
      (s!"priority for {t.taskType} must be between {minPriority} and {maxPriority}, " ++
        s!"got {t.priority}"))
  else match t.payload with
    | .null => .ok { t with payload := .object [] }
    | .object _ => .ok t
    | _ => .error (.validation s!"payload for {t.taskType} must be a JSON object")

end NewTask

namespace Task

/-- The pending task that a validated request describes. -/
def ofNew (t : NewTask) (id : Uuid) (now : Timestamp) : Task where
  id := id
  taskType := t.taskType
  payload := t.payload
  resourceId := t.resourceId
  priority := t.priority
  status := .pending
  attempts := 0
  scheduledFor := t.scheduledFor.getD now
  nextAttemptAt := none
  lastError := none
  claimedBy := none
  createdAt := now
  updatedAt := now
  completedAt := none

/-- A failed task with a completion stamp has used all its attempts. -/
def retriesExhausted (t : Task) : Bool :=
  t.status = .failed && t.completedAt.isSome

/-- No further transition is possible. -/
def isTerminal (t : Task) : Bool :=
  t.status.isAlwaysTerminal || t.retriesExhausted

/-- Ready to be claimed at an instant, prerequisites aside: a pending task once its schedule is
reached, a failed task once its retry instant is reached and attempts are left. -/
def isDue (t : Task) (now : Timestamp) (maxAttempts : Int) : Bool :=
  match t.status with
  | .pending => t.scheduledFor ≤ now
  | .failed => t.attempts < maxAttempts && t.nextAttemptAt.any (· ≤ now)
  | _ => false

/-- The instant from which the task is claimable. -/
def readyAt (t : Task) : Timestamp :=
  t.nextAttemptAt.getD t.scheduledFor

/-- Strictly earlier in claim order: a higher priority first, then an earlier ready instant, then an
earlier creation. -/
def claimsBefore (a b : Task) : Bool :=
  b.priority < a.priority || a.priority = b.priority &&
    (a.readyAt < b.readyAt || a.readyAt = b.readyAt && a.createdAt < b.createdAt)

/-- The tasks in claim order; tasks with equal keys keep their order. -/
def sortForClaim (tasks : List Task) : List Task :=
  tasks.mergeSort fun a b => !claimsBefore b a

/-- The positions of the tasks, counted from zero, in claim order. -/
def claimOrder (tasks : List Task) : List Nat :=
  (tasks.zipIdx.mergeSort fun a b => !claimsBefore b.1 a.1).map (·.2)

end Task

end WorkQueue
