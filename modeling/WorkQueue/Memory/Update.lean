import WorkQueue.Backoff
import WorkQueue.Memory.State

/-!
# Updates of a storage in memory

The operations that may be refused, as computations on the rows: what is read, checked and written,
in this order. A failure ends the computation where it occurs, and undoes nothing. That a refused
operation has written nothing is therefore a matter of the order in which it checks and writes. The
time and new identifiers are arguments.

## Main definitions

* `Memory.Update`, `Memory.Update.on`: computations that may fail, and what they do to rows
* `Memory.Update.enqueue`, `createChain`, `start`, `complete`, `fail`, `cancel`, `addDependency`,
  `upsertType`: the operations
-/

namespace WorkQueue.Memory

/-- A computation on the rows that may fail. What it has written by then stays written. -/
abbrev Update (α : Type) := ExceptT Failure (StateM State) α

namespace Update

/-- What comes of an update of the rows, and the rows that it leaves. -/
def on {α : Type} (s : State) (update : Update α) : Outcome α × State := (update.run.run s).run

/-! ### Creating tasks -/

/-- Stores a pending task. -/
def enqueue (spec : NewTask) (id : Uuid) (now : Timestamp) : Update Task := do
  let spec ← (← get).prepare spec
  let t := Task.ofNew spec id now
  modify (·.insert [t])
  return t

/-- Stores tasks of which each waits for the one before it. All requests are checked first, and the
first bad one in their order is reported. -/
def createChain (specs : List NewTask) (ids : List Uuid) (now : Timestamp) :
    Update (List Task) := do
  let s ← get
  let specs ← (specs.mapM s.prepare : Outcome (List NewTask))
  let ts := specs.zipWith (fun spec id => Task.ofNew spec id now) ids
  modify (·.link (State.chainEdges now ts))
  modify (·.insert ts)
  return ts

/-! ### Transitions -/

/-- Applies an action to a stored task: the action's sources and the lifecycle have to admit it,
and `fill` fills in the fields that the action sets. -/
def transition (id : Uuid) (action : Action) (now : Timestamp)
    (fill : State → Task → Outcome Task) : Update Task := do
  match (← get).find? id with
  | none => throw (.taskNotFound id)
  | some t =>
    if t.status ∈ action.sources then
      let target ← t.target? action
      let updated ← fill (← get) { t with status := target, updatedAt := now }
      modify (·.put updated)
      return updated
    else throw (.ofRejected id (some t) action)

/-- Starts a claimed task: one more attempt. -/
def start (id : Uuid) (now : Timestamp) : Update Task :=
  transition id .start now fun _ t => .ok { t with attempts := t.attempts + 1 }

/-- Completes a started task. -/
def complete (id : Uuid) (now : Timestamp) : Update Task :=
  transition id .complete now fun _ t => .ok { t with completedAt := some now }

/-- Fails a started task and schedules its retry by the policy of its type. -/
def fail (policy : Backoff.Policy) (id : Uuid) (message : String) (now : Timestamp) :
    Update Task :=
  transition id .fail now fun s t =>
    match s.findType? t.taskType with
    | none => .error (.invalidTaskType t.taskType)
    | some type =>
      let (next, completed) := policy.failureSchedule type t.attempts now
      .ok { t with lastError := some message, nextAttemptAt := next, completedAt := completed }

/-- Cancels a task that is not terminal. -/
def cancel (id : Uuid) (now : Timestamp) : Update Task :=
  transition id .cancel now fun _ t =>
    .ok { t with nextAttemptAt := none, completedAt := some now }

/-! ### Prerequisites -/

/-- What is said of a task that is no longer pending and cannot gain prerequisites. -/
def lateDependencyText (id : Uuid) (status : Status) : String :=
  s!"task {id} is {status} and can no longer gain prerequisites"

/-- Makes a pending task wait for another one. An edge that exists already is returned as it is; one
that would close a cycle is refused. -/
def addDependency (task prerequisite : Uuid) (now : Timestamp) : Update Dependency := do
  let s ← get
  match s.find? task with
  | none => throw (.taskNotFound task)
  | some t =>
    if (s.find? prerequisite).isNone then throw (.taskNotFound prerequisite)
    else if t.status ≠ .pending then
      throw (.invalidDependency (lateDependencyText task t.status))
    else match s.edges.find? fun e => e.task = task && e.prerequisite = prerequisite with
      | some edge => return edge
      | none =>
        if Dependency.wouldCycle s.edges task prerequisite then
          throw (.cycleDetected task prerequisite)
        else
          let edge : Dependency := ⟨task, prerequisite, now⟩
          modify (·.link [edge])
          return edge

/-! ### Task types -/

/-- Stores a type, or changes the policy stored under its name; the creation instant stays. -/
def upsertType (t : NewTaskType) (now : Timestamp) : Update TaskType := do
  t.validate
  let createdAt := (((← get).findType? t.name).map (·.createdAt)).getD now
  let type := t.registeredAt createdAt
  modify (·.putType type)
  return type

end Update

end WorkQueue.Memory
