import WorkQueue.Task

/-!
# The lifecycle of a task

The table of transitions: a pending or retryable task is claimed, then started, then completed or
failed; any task that is not terminal can be cancelled.

## Main definitions

* `Action.sources`: the statuses from which an action may be applied
* `Task.target?`: the status that a transition leads to, if the task admits it
* `Failure.ofRejected`: why a transition did not apply
-/

namespace WorkQueue

/-- The statuses from which an action may be applied; whether retries are left is checked apart. -/
def Action.sources : Action → List Status
  | .claim => [.pending, .failed]
  | .start => [.claimed]
  | .complete => [.processing]
  | .fail => [.processing]
  | .cancel => [.pending, .claimed, .processing, .failed]

/-- The refusal of an action on a task. -/
def Task.refusal (t : Task) (action : Action) : Failure :=
  .invalidTransition t.id t.status action

/-- The status that an action leads to. -/
def Task.target? (t : Task) (action : Action) : Outcome Status :=
  match t.status, action with
  | .pending, .claim => .ok .claimed
  | .failed, .claim => if t.retriesExhausted then .error (t.refusal action) else .ok .claimed
  | .claimed, .start => .ok .processing
  | .processing, .complete => .ok .completed
  | .processing, .fail => .ok .failed
  | .pending, .cancel => .ok .cancelled
  | .claimed, .cancel => .ok .cancelled
  | .processing, .cancel => .ok .cancelled
  | .failed, .cancel => if t.retriesExhausted then .error (t.refusal action) else .ok .cancelled
  | _, _ => .error (t.refusal action)

/-- Why an action did not apply to the task with an identifier, given what is stored under it. A
task that would admit the action by now is reported with its current status. -/
def Failure.ofRejected (id : Uuid) (current : Option Task) (action : Action) : Failure :=
  match current with
  | none => .taskNotFound id
  | some t =>
    match t.target? action with
    | .error failure => failure
    | .ok _ => .invalidTransition id t.status action

end WorkQueue
