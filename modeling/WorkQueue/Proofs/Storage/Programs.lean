import WorkQueue.Backend

/-!
# Programs that use a storage

A program is a sequence of storage operations, each of which may depend on the results of those
before it, and of entries that it adds to the log by itself. It never reads the log. Programs are
data, so that one program can be run on several storages.

## Main definitions

* `Operation`: an operation that does not read the log
* `Operation.records`: whether it writes log entries
* `Program`: operations one after the other
* `Program.run`: a program on a storage
-/

namespace WorkQueue

/-- An operation of a storage that neither reads nor only writes the log. -/
inductive Operation where
  | enqueue (spec : NewTask)
  | claim (worker : String) (limit : Nat)
  | start (id : Uuid)
  | complete (id : Uuid)
  | fail (id : Uuid) (message : String)
  | cancel (id : Uuid)
  | find (id : Uuid)
  | list (filter : Filter) (request : PageRequest)
  | metrics
  | upsertType (type : NewTaskType)
  | findType (name : String)
  | listTypes
  | createChain (specs : List NewTask)
  | addDependency (task prerequisite : Uuid)
  | dependenciesOf (id : Uuid)
  | isSatisfied (id : Uuid)

/-- What an operation returns when it succeeds. -/
def Operation.Result : Operation → Type
  | enqueue _ | start _ | complete _ | fail .. | cancel _ => Task
  | claim .. | createChain _ => List Task
  | find _ => Option Task
  | list .. => Page Task
  | metrics => Metrics
  | upsertType _ => TaskType
  | findType _ => Option TaskType
  | listTypes => List TaskType
  | addDependency .. => Dependency
  | dependenciesOf _ => List Dependency
  | isSatisfied _ => Bool

def Operation.run {m : Type → Type} (b : Backend m) : (op : Operation) → m (Outcome op.Result)
  | enqueue spec => b.enqueue spec
  | claim worker limit => b.claim worker limit
  | start id => b.start id
  | complete id => b.complete id
  | fail id message => b.fail id message
  | cancel id => b.cancel id
  | find id => b.find id
  | list filter request => b.list filter request
  | metrics => b.metrics
  | upsertType type => b.upsertType type
  | findType name => b.findType name
  | listTypes => b.listTypes
  | createChain specs => b.createChain specs
  | addDependency task prerequisite => b.addDependency task prerequisite
  | dependenciesOf id => b.dependenciesOf id
  | isSatisfied id => b.isSatisfied id

/-- The operation stores transitions that are recorded in the log. A start is not, since the claim
before it is. -/
def Operation.records : Operation → Bool
  | claim .. | complete _ | fail .. | cancel _ => true
  | _ => false

/-- Operations one after the other. -/
inductive Program (α : Type) where
  | done (result : α)
  | call (op : Operation) (next : Outcome op.Result → Program α)
  /-- Appends an entry to the log. -/
  | append (entry : NewLogEntry) (next : Program α)

/-- Runs a program on a storage. What else happens before each step depends on its number. -/
def Program.run {m : Type → Type} [Monad m] [Host m] {α : Type} (b : Backend m)
    (before : Nat → m Unit) : Nat → Program α → m α
  | _, done result => pure result
  | n, call op next => do
    before n
    let outcome ← op.run b
    (next outcome).run b before (n + 1)
  | n, append entry next => do
    before n
    appendLog b.writeLog entry
    next.run b before (n + 1)

end WorkQueue
