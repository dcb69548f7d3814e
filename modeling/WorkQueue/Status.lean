/-!
# Task statuses

The six lifecycle statuses of a task and their names.

## Main definitions

* `Status`, `Status.all`: the statuses, in the order in which they are reported
* `Status.name`, `Status.ofText?`: the stored text of a status
-/

namespace WorkQueue

/-- Where a task stands in its lifecycle. -/
inductive Status where
  /-- Waits for its schedule and its prerequisites. -/
  | pending
  /-- Taken by a worker, not yet started. -/
  | claimed
  /-- Its handler runs. -/
  | processing
  /-- Its handler succeeded. -/
  | completed
  /-- Its handler failed; retryable until the attempts of its type are used up. -/
  | failed
  /-- Cancelled by an operator or a producer. -/
  | cancelled
  deriving DecidableEq, Inhabited, Repr

namespace Status

/-- All statuses in reporting order. -/
def all : List Status := [pending, claimed, processing, completed, failed, cancelled]

/-- The stored text of a status. -/
def name : Status → String
  | pending => "pending"
  | claimed => "claimed"
  | processing => "processing"
  | completed => "completed"
  | failed => "failed"
  | cancelled => "cancelled"

instance : ToString Status := ⟨name⟩

/-- The status with a given stored text. -/
def ofText? (s : String) : Option Status := all.find? fun status => status.name = s

/-- What is said of a text that names no status. -/
def unknownText (s : String) : String := s!"Invalid task status: {s}"

/-- No transition leaves the status, whatever the task's attempts. A failed task is terminal only
once its retries are used up. -/
def isAlwaysTerminal : Status → Bool
  | completed | cancelled => true
  | _ => false

/-- A worker holds the task. -/
def isActive : Status → Bool
  | claimed | processing => true
  | _ => false

/-- The task releases the tasks that wait for it. -/
def releasesDependents : Status → Bool
  | completed => true
  | _ => false

@[simp] theorem ofText?_name (status : Status) : ofText? status.name = some status := by
  cases status <;> decide

end Status

end WorkQueue
