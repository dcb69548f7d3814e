import WorkQueue.Settings.Sections
import WorkQueue.Worker.Execution

/-!
# Batches

A worker claims a batch of tasks and executes them side by side, as many at once as it has permits.

## Main definitions

* `Worker.Tally`: the counts of a finished batch
* `Worker.permits`: how many executions a worker runs at once
* `Worker.runOnce`: a batch whose executions follow one after the other

## Design notes

Every execution ends with a verdict. An execution that broke off would count as skipped, but none
does. A handler is an asynchronous function whose failure is a text: calling it runs nothing of it,
and what it panics with when it runs is caught there and is its result, `HandlerResult.brokeOff`. All
else that an execution does is to look up a processor, call the storage and report, which do not
panic. `Worker.Pool` has permits come back from executions that break off all the same.
-/

namespace WorkQueue.Worker

/-- The counts of a batch. -/
structure Tally where
  claimed : Nat := 0
  completed : Nat := 0
  failed : Nat := 0
  skipped : Nat := 0
  deriving DecidableEq, Inhabited, Repr

/-- Counts a finished execution. -/
def Tally.add (tally : Tally) : Verdict → Tally
  | .completed => { tally with completed := tally.completed + 1 }
  | .failed => { tally with failed := tally.failed + 1 }
  | .skipped => { tally with skipped := tally.skipped + 1 }

/-- How many executions a worker runs at once. -/
def permits (config : Settings.Worker) : Nat := max 1 config.maxConcurrency

section

variable {m : Type → Type} [Monad m] [Host m]

/-- Reports the counts of a finished batch. -/
def Tally.report (tally : Tally) : m Unit :=
  Host.report .debug source "Batch finished"
    [("claimed", .integer tally.claimed), ("completed", .integer tally.completed),
      ("failed", .integer tally.failed), ("skipped", .integer tally.skipped)]

/-- Executes claimed tasks one after the other and counts their verdicts. -/
def executeAll (execute : Uuid → m Verdict) : List Task → Tally → m Tally
  | [], tally => return tally
  | t :: rest, tally => do
    let verdict ← execute t.id
    executeAll execute rest (tally.add verdict)

/-- Claims a batch and drives each of its tasks to an outcome, one after the other. -/
def runOnce (b : Backend m) (execute : Uuid → m Verdict) (worker : String)
    (config : Settings.Worker) : m (Outcome Tally) := do
  match ← b.claim worker config.batchSize with
  | .error failure => return .error failure
  | .ok [] => return .ok {}
  | .ok tasks =>
    let tally ← executeAll execute tasks { claimed := tasks.length }
    tally.report
    return .ok tally

end

end WorkQueue.Worker
