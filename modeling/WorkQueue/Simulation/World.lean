import WorkQueue.Database.Connection
import WorkQueue.Database.Script
import WorkQueue.Database.Store
import WorkQueue.Memory.Store
import WorkQueue.Processors
import WorkQueue.Producer
import WorkQueue.Simulation.Service
import WorkQueue.TypeRegistry

/-!
# Simulated worlds

A world in which a queue is run step by step: the clock stands still until it is moved, identifiers
are numbered, waiting takes virtual time, and telemetry is collected. The queue's storage is in
memory or a scripted database.

## Main definitions

* `Simulation.World`: everything that a run may change
* `Simulation.Sim`: computations in a world
* `Simulation.backend`: the storage of the world's queue
-/

namespace WorkQueue.Simulation

/-- Where the tasks of a world are stored. -/
inductive Storage where
  | memory
  /-- A database that answers from a script. -/
  | scripted
  deriving DecidableEq, Inhabited, Repr

/-- What the handlers of a type do with a task. -/
inductive Handler where
  | succeed
  /-- Fails with a message, told in further contexts, the last of them outermost. -/
  | fail (message : String) (contexts : List String)
  | breakOff (message : Option String)
  /-- Fails before the attempt with a number. -/
  | failBefore (attempt : Int)
  /-- Fails with the text that the payload holds under `fail`, if there is one. -/
  | obeyPayload
  /-- Waits for the milliseconds that the payload holds under `ms`, then obeys the payload. -/
  | sleep
  /-- Cancels a task, its own unless a number is given; then fails if there is a message. -/
  | cancel (target : Option Nat) (message : Option String)
  /-- Enqueues a task, and fails if that fails. -/
  | enqueue (spec : NewTask)
  /-- Fails because there is no handler of this kind. -/
  | unknown (kind : String)
  deriving Inhabited

/-- The state of a simulated world. -/
structure World where
  storage : Storage
  /-- The retry policy of the queue. -/
  policy : Backoff.Policy
  clock : Timestamp
  /-- How many identifiers have been handed out. -/
  drawn : Nat := 0
  /-- Later identifiers are smaller instead of larger. -/
  descending : Bool := false
  /-- The reported events, last one first. -/
  events : List Telemetry.Event := []
  memory : Memory := {}
  script : Database.Script := {}
  cache : TypeCache := {}
  /-- The cache of a second registry on the same storage. -/
  otherCache : TypeCache := {}
  processors : Processors Handler := {}
  /-- An enqueue has not been noticed by a waiting worker yet. -/
  wakePermit : Bool := false
  /-- The virtual time in milliseconds. It passes only while a caller waits. -/
  moment : Nat := 0
  /-- The services that have outlasted the time allowed for their stop, in this order. -/
  abandoned : List Service := []
  /-- The tasks whose handlers have been entered, last one first. -/
  calls : List Uuid := []
  /-- How many handlers have been entered and not left. -/
  active : Nat := 0
  /-- The largest number of handlers that were entered and not left at once. -/
  maxActive : Nat := 0

/-- What stands before the number in a simulated identifier. -/
def idBase : Nat := 0x00000000000040008000000000000000

/-- The largest number in a simulated identifier. -/
def maxIdNumber : Nat := 0xFFFFFFFFFFFF

/-- The identifier with a number, counted from one. -/
def World.idOf (w : World) (n : Nat) : Uuid :=
  .ofNat (idBase + if w.descending then maxIdNumber - n else n)

/-- A computation in a simulated world. -/
abbrev Sim := StateM World

instance : Host Sim where
  now := return (← get).clock
  freshId := modifyGet fun w =>
    let w := { w with drawn := w.drawn + 1 }
    (w.idOf w.drawn, w)
  emit event := modify fun w => { w with events := event :: w.events }

instance : MonadStateOf Memory Sim where
  get := return (← getThe World).memory
  set memory := modifyThe World fun w => { w with memory := memory }
  modifyGet f := modifyGetThe World fun w =>
    let (result, memory) := f w.memory
    (result, { w with memory := memory })

instance : MonadStateOf Database.Script Sim where
  get := return (← getThe World).script
  set script := modifyThe World fun w => { w with script := script }
  modifyGet f := modifyGetThe World fun w =>
    let (result, script) := f w.script
    (result, { w with script := script })

/-- Lets a waiting worker notice an enqueue. -/
def wake : Sim Unit := modifyThe World fun w => { w with wakePermit := true }

/-! ### Storage -/

/-- Hands delivered notifications to the workers. -/
def receiveNotifications : Sim Unit := do
  let delivered := (← getThe World).script.delivered
  modifyThe World fun w => { w with script := { w.script with delivered := [] } }
  for taskType in delivered do
    Database.reportNotification taskType
    wake

/-- Runs sessions on the script of the world. -/
def executor : Database.Session.Executor Sim :=
  let script : Database.Session.Executor Sim := Database.Script.executor
  { script with run := fun statement => do
      let answer ← script.run statement
      receiveNotifications
      return answer }

/-- Runs a session on the script of the world. -/
def runSession {α : Type} (session : Database.Session α) : Sim α := session.interpret executor

/-- The storage of a world's queue. -/
def World.backend (w : World) : Backend Sim :=
  match w.storage with
  | .memory => Memory.backend w.policy
  | .scripted => (Database.backend w.policy).map runSession

/-- The storage of the queue. -/
def backend : Sim (Backend Sim) := return (← getThe World).backend

/-- Runs an operation of a registry on one of the two caches. -/
def withCache {α : Type} (other : Bool) (operation : Backend Sim → StateT TypeCache Sim α) :
    Sim α := do
  let w ← getThe World
  let (result, cache) ← (operation w.backend).run (if other then w.otherCache else w.cache)
  modifyThe World fun w =>
    if other then { w with otherCache := cache } else { w with cache := cache }
  return result

end WorkQueue.Simulation
