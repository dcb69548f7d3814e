import WorkQueue.Worker.Batch

/-!
# The worker loop

A worker loop runs batches until it is stopped. Between batches it waits for its poll interval, for
a wake-up, or for the stop, except after a full batch, which suggests that more work is waiting.

## Main definitions

* `Worker.Signals`: the running flag and the two stored permits
* `Worker.Loop.Phase`: where the loop stands
* `Worker.Loop.advance`, `Worker.Loop.wake?`: its moves

## Design notes

A wake-up and a stop are each kept as one permit: given several times before the loop waits, they
count once. A stop clears the running flag as well, which the loop tests before and after each
batch.
-/

namespace WorkQueue.Worker

/-- What the loop of a worker shares with its callers. -/
structure Signals where
  running : Bool := false
  /-- An enqueue has not been noticed by a waiting loop yet. -/
  wakePermit : Bool := false
  /-- A stop has not been noticed by a waiting loop yet. -/
  stopPermit : Bool := false
  deriving DecidableEq, Inhabited

namespace Signals

/-- Takes the running flag for a new loop; refused while another one holds it. -/
def begin_ (s : Signals) : Bool × Signals := (!s.running, { s with running := true })

/-- An enqueue wakes the loop. -/
def wake (s : Signals) : Signals := { s with wakePermit := true }

/-- Asks the loop to leave after the current batch. -/
def stop (s : Signals) : Signals := { s with running := false, stopPermit := true }

end Signals

/-- What is said to a caller that runs a worker twice. -/
def alreadyRunning (worker : String) : Failure :=
  .validation s!"Worker {worker} is already running"

/-- What is said when a batch outlasts the time allowed for a stop. -/
def stopTimeout : Failure := .timeout "Worker stop timeout exceeded"

/-- Whether the loop goes on without waiting after a batch. -/
def skipsWait (config : Settings.Worker) : Outcome Tally → Bool
  | .ok tally => config.batchSize ≤ tally.claimed || config.pollIntervalMs = 0
  | .error _ => config.pollIntervalMs = 0

namespace Loop

/-- Where a loop stands. -/
inductive Phase where
  /-- Before a batch: the running flag is to be tested. -/
  | top
  /-- A batch is in progress. -/
  | batch
  /-- After a batch: the flag is to be tested again, then the loop waits unless told to go on. -/
  | settled (skipWait : Bool)
  /-- Waits for the poll interval, a wake-up or the stop. -/
  | parked
  /-- About to give back the running flag. -/
  | leaving
  | returned
  deriving DecidableEq, Inhabited, Repr

/-- The move of a loop that neither runs a batch nor waits. -/
def advance (s : Signals) : Phase → Signals × Phase
  | .top => (s, if s.running then .batch else .leaving)
  | .settled skipWait =>
    (s, if !s.running then .leaving else if skipWait then .top else .parked)
  | .leaving => ({ s with running := false }, .returned)
  | phase => (s, phase)

/-- Why a waiting loop goes on. -/
inductive Reason where
  | pollInterval
  | wakeUp
  | stop
  deriving DecidableEq, Inhabited, Repr

/-- The permit, if any, that ends a wait at once; it is used up. -/
def wake? (s : Signals) : Option (Reason × Signals) :=
  if s.wakePermit then some (.wakeUp, { s with wakePermit := false })
  else if s.stopPermit then some (.stop, { s with stopPermit := false })
  else none

/-- Where a loop stands after its wait has ended. -/
def afterWait : Reason → Phase
  | .stop => .leaving
  | _ => .top

section

variable {m : Type → Type} [Monad m] [Host m]

/-- Reports that a loop starts. -/
def reportStarted (worker : String) (config : Settings.Worker) : m Unit :=
  Host.report .info source "Worker loop started"
    [("worker_id", .shown worker), ("batch_size", .integer config.batchSize),
      ("max_concurrency", .integer config.maxConcurrency),
      ("poll_interval_ms", .integer config.pollIntervalMs)]

/-- Reports a batch that could not be claimed. -/
def reportBatchFailure (worker : String) : Outcome Tally → m Unit
  | .ok _ => pure ()
  | .error failure =>
    Host.report .error source "Batch processing failed"
      [("worker_id", .shown worker), ("error", .shown failure.message)]

/-- Reports why a wait has ended. -/
def reportReason (worker : String) : Reason → m Unit
  | .pollInterval => pure ()
  | .wakeUp =>
    Host.report .debug source "Woken by enqueue notification" [("worker_id", .shown worker)]
  | .stop =>
    Host.report .debug source "Shutdown notification received" [("worker_id", .shown worker)]

/-- Reports that a loop has ended. -/
def reportStopped (worker : String) : m Unit :=
  Host.report .info source "Worker loop stopped" [("worker_id", .shown worker)]

/-- Reports that a worker is asked to stop. -/
def reportStopping (worker : String) : m Unit :=
  Host.report .info source "Stopping worker" [("worker_id", .shown worker)]

/-- Reports that a batch outlasted the time allowed for a stop. -/
def reportTimeout (worker : String) (config : Settings.Worker) : m Unit :=
  Host.report .warn source "Worker did not stop within timeout"
    [("worker_id", .shown worker), ("timeout_seconds", .integer config.shutdownTimeoutSeconds)]

end

end Loop

end WorkQueue.Worker
