import WorkQueue.Status
import WorkQueue.Transition
import WorkQueue.Uuid

/-!
# Failures

Why an operation of the queue is refused or cannot be carried out, and the text of each reason.

## Main definitions

* `Failure`: the reasons
* `Failure.message`: their texts
* `Outcome`: the result of an operation
-/

namespace WorkQueue

/-- Why an operation failed. -/
inductive Failure where
  /-- A task type is missing or not registered. -/
  | invalidTaskType (text : String)
  /-- The status of a task does not admit a transition. -/
  | invalidTransition (task : Uuid) (status : Status) (action : Action)
  /-- An edge would close a cycle of prerequisites. -/
  | cycleDetected (task prerequisite : Uuid)
  /-- A task can no longer gain prerequisites. -/
  | invalidDependency (text : String)
  | taskNotFound (task : Uuid)
  | processorNotFound (taskType : String)
  /-- The handler of a task reported an error or broke off. -/
  | handlerFailed (taskType message : String)
  /-- An argument is out of bounds. -/
  | validation (text : String)
  | database (text : String)
  | serialization (text : String)
  | configuration (text : String)
  | timeout (text : String)
  deriving DecidableEq, Inhabited

/-- The result of an operation of the queue. -/
abbrev Outcome (α : Type) := Except Failure α

namespace Failure

/-- The text shown to operators. -/
def message : Failure → String
  | invalidTaskType text => s!"Invalid task type: {text}"
  | invalidTransition task status action =>
    s!"Invalid transition for task {task}: cannot apply '{action.name}' from state {status}"
  | cycleDetected task prerequisite =>
    s!"Dependency {task} -> {prerequisite} would create a cycle"
  | invalidDependency text => s!"Invalid dependency: {text}"
  | taskNotFound task => s!"Task not found: {task}"
  | processorNotFound taskType => s!"No processor registered for task type {taskType}"
  | handlerFailed taskType message => s!"Handler for {taskType} failed: {message}"
  | validation text => s!"Validation error: {text}"
  | database text => s!"Database error: {text}"
  | serialization text => s!"Serialization error: {text}"
  | configuration text => s!"Configuration error: {text}"
  | timeout text => s!"Timeout error: {text}"

/-- A refused status change rather than a broken store. -/
def isInvalidTransition : Failure → Bool
  | invalidTransition .. => true
  | _ => false

end Failure

end WorkQueue
