import WorkQueue.Simulation.Handler

/-!
# Virtual time

Handlers that wait, poll intervals and stops take virtual time, which jumps from one awaited moment
to the next; everything else takes none.

## Main definitions

* `Simulation.Shift.wake`: what happens when a handler has waited
* `Simulation.Service.step`: the next move of a worker loop
* `Simulation.pass`: what abandoned services do until a moment

## Design notes

A service that outlasts the time allowed for its stop is abandoned, not interrupted: its handlers
wake and its remaining tasks are executed while later callers wait.
-/

namespace WorkQueue.Simulation

open Worker

/-- Time goes on to a moment; it never goes back. -/
def reach (moment : Nat) : Sim Unit :=
  modifyThe World fun w => { w with moment := max w.moment moment }

/-! ### Batches -/

/-- All that remains of an execution whose handler has been entered. -/
def finishTask (b : Backend Sim) (id : Uuid) (t : Task) : Sim Verdict :=
  Execution.finish b resolveHandler (fun h t => do
    let result ← h.process t
    leave
    return result) id t

/-- How long the handler of a task waits. Beside a scripted database no time passes. -/
def World.delay (w : World) (h : Handler) (t : Task) : Nat :=
  match w.storage with
  | .memory => h.delay t
  | .scripted => 0

/-- Starts a claimed task. It is executed at once unless its handler waits. -/
def startTask (b : Backend Sim) (id : Uuid) : Sim (Verdict ⊕ Sleeper) := do
  match ← Execution.start b id with
  | .started id t =>
    let w ← getThe World
    match w.processors.find? t.taskType with
    | none => return .inl (← finishTask b id t)
    | some h =>
      enter t.id
      let delay := w.delay h t
      if delay = 0 then return .inl (← finishTask b id t)
      else return .inr ⟨w.moment + delay, id, t⟩
  | .finished verdict => return .inl verdict
  | _ => return .inl .skipped

namespace Shift

/-- Starts waiting tasks in claim order, as long as there are permits. -/
def fill (b : Backend Sim) (permits : Nat) (asleep : List Sleeper) (tally : Tally) :
    List Uuid → Sim Shift
  | [] => return ⟨permits, [], asleep, tally⟩
  | id :: rest => do
    if permits ≤ asleep.length then return ⟨permits, id :: rest, asleep, tally⟩
    match ← startTask b id with
    | .inl verdict => fill b permits asleep (tally.add verdict) rest
    | .inr sleeper => fill b permits (asleep ++ [sleeper]) tally rest

/-- A batch of claimed tasks. -/
def begin_ (b : Backend Sim) (config : Settings.Worker) (claimed : List Task) : Sim Shift :=
  fill b (Worker.permits config) [] { claimed := claimed.length } (claimed.map (·.id))

/-- A sleeper has woken: its execution ends, and its permit goes to the next waiting task. -/
def wake (s : Shift) (b : Backend Sim) (first : Sleeper) (others : List Sleeper) : Sim Shift := do
  let verdict ← finishTask b first.id first.task
  fill b s.permits others (s.tally.add verdict) s.waiting

end Shift

/-! ### Loops -/

namespace Service

/-- Keeps changed flags. -/
def keep (s : Service) (signals : Signals) : Sim Service := do
  modifyThe World fun w => { w with wakePermit := signals.wakePermit }
  return { s with running := signals.running, stopPermit := signals.stopPermit }

/-- What follows a batch with its outcome. -/
def settle (s : Service) (outcome : Outcome Tally) : Sim Service := do
  Loop.reportBatchFailure s.worker outcome
  return { s with phase := .settled (skipsWait s.config outcome) }

/-- Claims a batch and starts it. -/
def startBatch (s : Service) (b : Backend Sim) : Sim Service := do
  match ← b.claim s.worker s.config.batchSize with
  | .error failure => s.settle (.error failure)
  | .ok [] => s.settle (.ok {})
  | .ok claimed =>
    let shift ← Shift.begin_ b s.config claimed
    return { s with phase := .batch, shift := shift }

/-- The next move of a loop. Its moment has come. -/
def step (s : Service) (b : Backend Sim) : Sim Service := do
  let w ← getThe World
  let signals := s.signals w.wakePermit
  match s.phase with
  | .returned => return s
  | .batch =>
    match s.shift.next? with
    | none =>
      s.shift.tally.report
      s.settle (.ok s.shift.tally)
    | some (first, others) => return { s with shift := ← s.shift.wake b first others }
  | .parked =>
    match Loop.wake? signals with
    | some (reason, signals) =>
      Loop.reportReason s.worker reason
      return { (← s.keep signals) with phase := Loop.afterWait reason }
    | none => return { s with phase := Loop.afterWait .pollInterval }
  | phase =>
    let (signals, phase) := Loop.advance signals phase
    let s ← s.keep signals
    match phase with
    | .batch => s.startBatch b
    | .parked => return { s with phase := .parked, pollsAt := w.moment + s.config.pollIntervalMs }
    | .returned =>
      Loop.reportStopped s.worker
      return { s with phase := .returned }
    | phase => return { s with phase := phase }

end Service

/-! ### Abandoned services -/

/-- The moment of a service's next move. -/
def World.due? (w : World) (s : Service) : Option Nat := s.due? w.moment w.wakePermit

/-- The moment of the next move of an abandoned service. -/
def World.abandonedDue? (w : World) : Option Nat := (w.abandoned.filterMap w.due?).min?

/-- The next move of the first abandoned service that is due at a moment. -/
def moveAbandoned (b : Backend Sim) (due : Nat) : Sim Unit := do
  let w ← getThe World
  match w.abandoned.span fun s => w.due? s ≠ some due with
  | (before, s :: after) =>
    reach due
    let s ← s.step b
    modifyThe World fun w =>
      { w with abandoned := before ++ if s.phase = .returned then after else s :: after }
  | (_, []) => return

/-- Services that make more moves than this while time passes never rest. -/
def maxMoves : Nat := 10000000

/-- All moves of abandoned services until a moment, as many as the last argument allows. -/
def passFor (b : Backend Sim) (moment : Nat) : Nat → Sim Unit
  | 0 => reach moment
  | bound + 1 => do
    match (← getThe World).abandonedDue? with
    | none => reach moment
    | some due =>
      if due ≤ moment then
        moveAbandoned b due
        passFor b moment bound
      else reach moment

/-- A caller waits until a moment. -/
def pass (b : Backend Sim) (moment : Nat) : Sim Unit := passFor b moment maxMoves

end WorkQueue.Simulation
