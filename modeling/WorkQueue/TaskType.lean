import WorkQueue.Failure
import WorkQueue.Text.Blank
import WorkQueue.Timestamp

/-!
# Task types

A task type is a named retry policy: how often a task of the type may be attempted, and the base
delay between attempts.

## Main definitions

* `NewTaskType`, `NewTaskType.validate`: a type to be registered, and its bounds
* `TaskType`: a registered type
-/

namespace WorkQueue

/-- A task type to be registered. -/
structure NewTaskType where
  name : String
  maxAttempts : Int
  retryBackoffSeconds : Int
  description : Option String := none
  deriving DecidableEq, Inhabited

/-- A registered task type. -/
structure TaskType where
  name : String
  maxAttempts : Int
  retryBackoffSeconds : Int
  description : Option String
  createdAt : Timestamp
  deriving DecidableEq, Inhabited

namespace NewTaskType

/-- Accepts a type with a name, at least one attempt, and a delay that is not negative; the first
violation in this order is reported. -/
def validate (t : NewTaskType) : Outcome Unit :=
  if Text.isBlank t.name then .error (.validation "Task type name cannot be empty")
  else if t.maxAttempts < 1 then
    .error (.validation
      s!"Task type {t.name} must allow at least one attempt (got {t.maxAttempts})")
  else if t.retryBackoffSeconds < 0 then
    .error (.validation s!"Task type {t.name} has a negative retry backoff")
  else .ok ()

/-- The registered type, created at a given instant. -/
def registeredAt (t : NewTaskType) (createdAt : Timestamp) : TaskType :=
  ⟨t.name, t.maxAttempts, t.retryBackoffSeconds, t.description, createdAt⟩

end NewTaskType

end WorkQueue
