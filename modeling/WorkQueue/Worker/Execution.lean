import WorkQueue.Backend
import WorkQueue.Processors
import WorkQueue.Producer

/-!
# Executing a claimed task

A worker drives each task of a batch to an outcome in three steps: it starts the task, runs the
handler, and records how the handler ended. Nothing that goes wrong with one task leaves its
execution: a handler that panics has ended with `HandlerResult.brokeOff`.

## Main definitions

* `Worker.Execution`: how far an execution is
* `Worker.Execution.start`, `Worker.Execution.conclude`: the steps that use the backend
* `Worker.Execution.finish`: all steps after the start
* `Worker.execute`: the steps one after the other
-/

namespace WorkQueue.Worker

/-- Where workers report from. -/
def source : String := "task_queue::worker"

/-- How the execution of a claimed task ended. -/
inductive Verdict where
  | completed
  | failed
  /-- The outcome could not be stored, for example because the task was cancelled meanwhile. -/
  | skipped
  deriving DecidableEq, Inhabited, Repr

/-- How far the execution of a claimed task is. -/
inductive Execution where
  /-- To be started. -/
  | claimed (id : Uuid)
  /-- Started; its handler is to be run or runs, on the row that the start returned. -/
  | started (id : Uuid) (t : Task)
  /-- Its handler has ended, or there was none. -/
  | handled (id : Uuid) (result : Outcome Unit)
  | finished (verdict : Verdict)
  deriving Inhabited

/-- What the end of a handler means for the task's outcome. -/
def outcomeOf (taskType : String) : HandlerResult → Outcome Unit
  | .succeeded => .ok ()
  | .failed message => .error (.handlerFailed taskType message)
  | .brokeOff none => .error (.handlerFailed taskType "handler panicked")
  | .brokeOff (some message) => .error (.handlerFailed taskType s!"handler panicked: {message}")

/-- The text stored as the last error: the handler's own message, or the failure's. -/
def lastErrorText : Failure → String
  | .handlerFailed _ message => message
  | failure => failure.message

section

variable {m : Type → Type} [Monad m] [Host m]

/-- Reports that an outcome was not stored. A task that was cancelled meanwhile is no error. -/
def reportDropped (id : Uuid) (operation : String) (failure : Failure) : m Unit :=
  let fields := [("task_id", .shown (toString id)), ("operation", .quoted operation),
    ("error", .shown failure.message)]
  if failure.isInvalidTransition then
    Host.report .info source "Dropping outcome for task" fields
  else Host.report .error source "Failed to record task outcome" fields

/-- Starts a claimed task. -/
def Execution.start (b : Backend m) (id : Uuid) : m Execution := do
  match ← b.start id with
  | .ok t => return .started id t
  | .error failure =>
    Host.report .warn source "Could not start claimed task"
      [("task_id", .shown (toString id)), ("error", .shown failure.message)]
    return .finished .skipped

/-- Stores how the handler of a started task ended. -/
def Execution.conclude (b : Backend m) (id : Uuid) : Outcome Unit → m Verdict
  | .ok () => do
    match ← b.complete id with
    | .ok t =>
      reportOperation "complete" id t
      return .completed
    | .error failure =>
      reportDropped id "complete" failure
      return .skipped
  | .error failure => do
    let message := lastErrorText failure
    match ← b.fail id message with
    | .ok t =>
      if t.retriesExhausted then
        Host.report .warn source "Task exhausted its retries and needs manual intervention"
          [("task_id", .shown (toString id)), ("task_type", .shown t.taskType),
            ("attempts", .integer t.attempts), ("last_error", .shown message)]
      else reportOperation "fail" id t message
      return .failed
    | .error failure =>
      reportDropped id "fail" failure
      return .skipped

/-- Runs the handler of a started task: the processor of its type, if there is one. -/
def Execution.handle {P : Type} (resolve : String → m (Outcome P))
    (process : P → Task → m HandlerResult) (t : Task) : m (Outcome Unit) := do
  match ← resolve t.taskType with
  | .error failure => return .error failure
  | .ok p => return outcomeOf t.taskType (← process p t)

/-- What remains of an execution whose task has been started. -/
def Execution.finish {P : Type} (b : Backend m) (resolve : String → m (Outcome P))
    (process : P → Task → m HandlerResult) (id : Uuid) (t : Task) : m Verdict := do
  let result ← Execution.handle resolve process t
  Execution.conclude b id result

/-- The next step of an execution. -/
def Execution.step {P : Type} (b : Backend m) (resolve : String → m (Outcome P))
    (process : P → Task → m HandlerResult) : Execution → m Execution
  | .claimed id => Execution.start b id
  | .started id t => do return .handled id (← Execution.handle resolve process t)
  | .handled id result => do return .finished (← Execution.conclude b id result)
  | .finished verdict => return .finished verdict

/-- All steps of an execution, one after the other. -/
def execute {P : Type} (b : Backend m) (resolve : String → m (Outcome P))
    (process : P → Task → m HandlerResult) (id : Uuid) : m Verdict := do
  match ← Execution.start b id with
  | .started id t => Execution.finish b resolve process id t
  | .finished verdict => return verdict
  | _ => return .skipped

end

end WorkQueue.Worker
