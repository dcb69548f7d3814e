import WorkQueue.Monitor
import WorkQueue.Simulation.Timeline

/-!
# Runs

What a caller starts in a simulated world and waits for: a batch, a worker loop for some time, a
monitor for some time.

## Main definitions

* `Simulation.runBatch`: one batch
* `Simulation.Service.drive`: what a worker loop does until a moment
* `Simulation.serve`, `Simulation.runTwice`, `Simulation.monitor`: loops for some time
-/

namespace WorkQueue.Simulation

open Worker

/-! ### Batches -/

/-- Executes the rest of a batch. The first argument bounds the number of wakings. -/
def Shift.finish (b : Backend Sim) : Nat → Shift → Sim Tally
  | 0, s => return s.tally
  | bound + 1, s => do
    match s.next? with
    | none => return s.tally
    | some (first, others) =>
      pass b first.wakesAt
      finish b bound (← s.wake b first others)

/-- Claims a batch and executes it to its end. -/
def runBatch (b : Backend Sim) (worker : String) (config : Settings.Worker) :
    Sim (Outcome Tally) := do
  match ← b.claim worker config.batchSize with
  | .error failure => return .error failure
  | .ok [] => return .ok {}
  | .ok claimed =>
    pass b (← getThe World).moment
    let shift ← Shift.begin_ b config claimed
    let tally ← shift.finish b claimed.length
    tally.report
    return .ok tally

/-! ### Loops -/

namespace Service

/-- Whether a moment is not later than the last one that is looked at. -/
def within (moment : Nat) (last : Option Nat) : Bool := last.all (moment ≤ ·)

/-- All moves of a loop, and of abandoned services beside it, up to a last moment: as many as the
third argument allows, and none after the loop has returned. -/
def driveFor (b : Backend Sim) (last : Option Nat) : Nat → Service → Sim Service
  | 0, s => return s
  | bound + 1, s => do
    let w ← getThe World
    match w.due? s with
    | none => return s
    | some due =>
      match w.abandonedDue?.filter (· ≤ due) with
      | some earlier =>
        if within earlier last then
          moveAbandoned b earlier
          driveFor b last bound s
        else return s
      | none =>
        if within due last then
          reach due
          driveFor b last bound (← s.step b)
        else return s

/-- All moves of a loop up to a last moment, or to its end. -/
def drive (s : Service) (b : Backend Sim) (last : Option Nat) : Sim Service :=
  driveFor b last maxMoves s

/-- Lets a loop run until a moment, which is then reached unless the loop has returned before. -/
def runUntil (s : Service) (b : Backend Sim) (moment : Nat) : Sim Service := do
  let s ← s.drive b (some moment)
  if s.phase ≠ .returned then reach moment
  return s

end Service

/-- Starts a loop, lets it run for some time, and stops it. A stop waits for the batch in progress
for no longer than the shutdown timeout; without any such time, not even for an idle loop. A loop
that has not ended by then is abandoned. -/
def serve (b : Backend Sim) (worker : String) (config : Settings.Worker) (forMs : Nat) :
    Sim (Outcome Unit) := do
  let w ← getThe World
  pass b w.moment
  Loop.reportStarted worker config
  let service : Service := { worker := worker, config := config }
  let service ← service.runUntil b (w.moment + forMs)
  Loop.reportStopping worker
  let service := service.stop
  let timeout := config.shutdownTimeoutMs
  let patient := timeout ≠ 0 || w.storage = .scripted
  let service ← if patient then service.runUntil b (w.moment + forMs + timeout) else pure service
  if service.phase = .returned then return .ok ()
  Loop.reportTimeout worker config
  modifyThe World fun w => { w with abandoned := w.abandoned ++ [service] }
  return .error stopTimeout

/-- What was seen of a loop that was run a second time. -/
structure SecondRun where
  before : Bool
  during : Bool
  after : Bool
  /-- The refusal of the second run. -/
  refusal : Failure
  deriving Inhabited

/-- Runs a loop, tries to run it again after some time, and stops it. -/
def runTwice (b : Backend Sim) (worker : String) (config : Settings.Worker) (forMs : Nat) :
    Sim SecondRun := do
  let w ← getThe World
  pass b w.moment
  let (_, signals) := ({} : Signals).begin_
  Loop.reportStarted worker config
  let service : Service := { worker := worker, config := config, running := signals.running }
  let service ← service.runUntil b (w.moment + forMs)
  let during := service.running
  let service ← service.stop.drive b none
  return ⟨false, during, service.running, alreadyRunning worker⟩

/-- Runs a monitor for some time. -/
def monitor (b : Backend Sim) (thresholds : Settings.Monitor) (forMs : Nat) : Sim Unit := do
  let w ← getThe World
  Monitor.started thresholds
  for n in List.range (forMs / thresholds.checkIntervalMs + 1) do
    pass b (w.moment + n * thresholds.checkIntervalMs)
    Monitor.round b thresholds
  pass b (w.moment + forMs)
  Monitor.stopped

end WorkQueue.Simulation
