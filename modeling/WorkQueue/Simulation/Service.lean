import WorkQueue.Backend
import WorkQueue.Worker.Loop

/-!
# Services in virtual time

What is known of a worker loop between two of its moves. Moments of virtual time are counted in
milliseconds.

## Main definitions

* `Simulation.Shift`: a batch in progress, some of its handlers asleep
* `Simulation.Service`: a worker loop in progress
* `Simulation.Service.due?`: the moment of its next move
-/

namespace WorkQueue.Simulation

open Worker

/-! ### Batches -/

/-- A started task whose handler waits. -/
structure Sleeper where
  wakesAt : Nat
  id : Uuid
  task : Task
  deriving Inhabited

/-- A batch in progress. -/
structure Shift where
  /-- How many tasks are executed at once. -/
  permits : Nat
  /-- Claimed and not started, in claim order. -/
  waiting : List Uuid
  asleep : List Sleeper := []
  tally : Tally
  deriving Inhabited

/-- The sleeper that wakes first, and the other ones. -/
def Shift.next? (s : Shift) : Option (Sleeper × List Sleeper) :=
  match s.asleep.map (·.wakesAt) |>.min? with
  | none => none
  | some moment =>
    match s.asleep.partition fun sleeper => sleeper.wakesAt = moment with
    | (first :: same, later) => some (first, same ++ later)
    | ([], _) => none

/-! ### Loops -/

/-- A worker loop in progress. -/
structure Service where
  worker : String
  config : Settings.Worker
  running : Bool := true
  stopPermit : Bool := false
  phase : Loop.Phase := .top
  /-- The batch in progress, in phase `batch`. -/
  shift : Shift := default
  /-- When the poll interval ends, in phase `parked`. -/
  pollsAt : Nat := 0
  deriving Inhabited

namespace Service

/-- The flags of a loop and the wake-up permit that it shares with its queue. -/
def signals (s : Service) (wakePermit : Bool) : Signals := ⟨s.running, wakePermit, s.stopPermit⟩

/-- The moment of the next move, seen from a moment; a loop that has returned makes none. -/
def due? (s : Service) (moment : Nat) (wakePermit : Bool) : Option Nat :=
  match s.phase with
  | .returned => none
  | .batch => some (max moment ((s.shift.next?.map (·.1.wakesAt)).getD moment))
  | .parked =>
    if (Loop.wake? (s.signals wakePermit)).isSome then some moment else some (max moment s.pollsAt)
  | _ => some moment

/-- Asks a loop to end. -/
def stop (s : Service) : Service :=
  let signals := (s.signals false).stop
  { s with running := signals.running, stopPermit := signals.stopPermit }

end Service

end WorkQueue.Simulation
