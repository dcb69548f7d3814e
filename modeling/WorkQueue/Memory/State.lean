import WorkQueue.Dependency
import WorkQueue.Filter
import WorkQueue.Lifecycle
import WorkQueue.Metrics
import WorkQueue.Page
import WorkQueue.TaskType

/-!
# The state of a storage in memory

Tasks, task types and prerequisite edges: how rows are found and written, what a claim takes, and
what is read of them. The operations that may be refused are in `WorkQueue.Memory.Update`.

## Main definitions

* `Memory.State`: the stored rows
* `Memory.State.isClaimable`: which tasks a claim may take
* `Memory.State.claim`: what a claim does to the rows
* `Memory.State.list`, `Memory.State.metrics`: what is read of them

## Design notes

Tasks are a list without repeated identifiers. Its order is the order in which rows are visited; no
result depends on it except the order of claimed tasks with equal claim keys.
-/

namespace WorkQueue.Memory

/-- The stored rows. -/
structure State where
  tasks : List Task := []
  types : List TaskType := []
  edges : List Dependency := []
  deriving Inhabited

namespace State

/-! ### Looking up -/

def find? (s : State) (id : Uuid) : Option Task := s.tasks.find? fun t => t.id = id

def findType? (s : State) (name : String) : Option TaskType :=
  s.types.find? fun type => type.name = name

/-- All prerequisites of a task are stored and completed. -/
def isSatisfied (s : State) (id : Uuid) : Bool :=
  (Dependency.prerequisitesOf s.edges id).all fun p =>
    (s.find? p).any fun t => t.status.releasesDependents

/-- A claim at an instant may take the task: its type is known, it is due with attempts left, and
its prerequisites are completed. -/
def isClaimable (s : State) (now : Timestamp) (t : Task) : Bool :=
  (s.findType? t.taskType).any fun type =>
    t.isDue now type.maxAttempts && !t.retriesExhausted && s.isSatisfied t.id

/-! ### Writing rows -/

/-- Replaces the row of a task. -/
def put (s : State) (t : Task) : State :=
  { s with tasks := s.tasks.map fun old => if old.id = t.id then t else old }

/-- Adds the rows of new tasks. -/
def insert (s : State) (ts : List Task) : State := { s with tasks := s.tasks ++ ts }

/-- Adds edges. -/
def link (s : State) (es : List Dependency) : State := { s with edges := s.edges ++ es }

/-- The edges that make each task wait for the one before it. -/
def chainEdges (now : Timestamp) : List Task → List Dependency
  | a :: b :: rest => ⟨b.id, a.id, now⟩ :: chainEdges now (b :: rest)
  | _ => []

/-- Adds a row of a type, or replaces the one of the same name. -/
def putType (s : State) (type : TaskType) : State :=
  { s with types :=
      if s.types.any fun old => old.name = type.name then
        s.types.map fun old => if old.name = type.name then type else old
      else s.types ++ [type] }

/-! ### Requests -/

/-- Checks a request against its bounds and the known types. -/
def prepare (s : State) (spec : NewTask) : Outcome NewTask := do
  let spec ← spec.validate
  match s.findType? spec.taskType with
  | some _ => .ok spec
  | none => .error (.invalidTaskType spec.taskType)

/-! ### Claiming -/

/-- The row of a task after a worker has claimed it. -/
def claimedRow (worker : String) (now : Timestamp) (t : Task) : Task :=
  { t with
    status := .claimed
    claimedBy := some worker
    nextAttemptAt := none
    updatedAt := now }

/-- The claimable tasks in claim order, at most `limit` of them. -/
def candidates (s : State) (limit : Nat) (now : Timestamp) : List Task :=
  (Task.sortForClaim (s.tasks.filter (s.isClaimable now))).take limit

/-- Claims up to `limit` tasks for a worker. -/
def claim (s : State) (worker : String) (limit : Nat) (now : Timestamp) : List Task × State :=
  let claimed := (s.candidates limit now).map (claimedRow worker now)
  (claimed, claimed.foldl put s)

/-! ### Prerequisites -/

/-- The edges to the prerequisites of a task, in insertion order. -/
def dependenciesOf (s : State) (id : Uuid) : Outcome (List Dependency) :=
  if (s.find? id).isNone then .error (.taskNotFound id)
  else .ok (s.edges.filter fun e => e.task = id)

/-- Whether all prerequisites of a stored task are completed. -/
def satisfied (s : State) (id : Uuid) : Outcome Bool :=
  if (s.find? id).isNone then .error (.taskNotFound id) else .ok (s.isSatisfied id)

/-! ### Task types -/

/-- All types by name. -/
def listTypes (s : State) : List TaskType :=
  s.types.mergeSort fun a b => decide (a.name ≤ b.name)

/-! ### Listings -/

/-- A page of the accepted tasks in listing order. -/
def list (s : State) (filter : Filter) (request : PageRequest) : Page Task :=
  .ofList (Task.sortForListing (s.tasks.filter filter.accepts)) request

/-- The number of tasks of each status. -/
def metrics (s : State) : Metrics := .ofCounts (s.tasks.map fun t => (t.status, 1))

end State

end WorkQueue.Memory
