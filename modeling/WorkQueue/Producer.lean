import WorkQueue.Backend

/-!
# Producing and administering tasks

What producers and operators do with a queue: enqueue tasks and chains, cancel tasks, and look at a
task with its history.

## Main definitions

* `Producer.enqueue`, `Producer.createChain`: new tasks; each success wakes a waiting worker
* `Producer.cancel`, `Producer.detail`: administration
-/

namespace WorkQueue

/-- A task with its prerequisites and its history. -/
structure TaskDetail where
  task : Task
  dependencies : List Dependency
  log : List LogEntry
  deriving Inhabited

section

variable {m : Type → Type} [Monad m] [Host m]

/-- Reports an operation on the task with an identifier, and the row that it left. -/
def reportOperation (operation : String) (id : Uuid) (t : Task) (error : Option String := none) :
    m Unit :=
  Host.report .info "task_queue::logging" "task operation"
    ([("operation", .quoted operation), ("task_id", .shown (toString id)),
      ("task_type", .quoted t.taskType), ("status", .quoted t.status.name)] ++
      error.toList.map fun e => ("error", .quoted e))

/-- The diagnostic text of an optional identifier. -/
def optionalIdText : Option Uuid → String
  | none => "None"
  | some id => s!"Some({id})"

namespace Producer

/-- Stores a task and wakes a worker. -/
def enqueue (b : Backend m) (wake : m Unit) (spec : NewTask) : m (Outcome Task) := do
  match ← b.enqueue spec with
  | .error failure => return .error failure
  | .ok t =>
    reportOperation "enqueue" t.id t
    wake
    return .ok t

/-- Stores a chain of tasks and wakes a worker, unless the chain is empty. -/
def createChain (b : Backend m) (wake : m Unit) (specs : List NewTask) :
    m (Outcome (List Task)) := do
  match ← b.createChain specs with
  | .error failure => return .error failure
  | .ok ts =>
    Host.report .debug "task_queue::dependency" "Task chain created"
      [("head", .shown (optionalIdText (ts.head?.map (·.id)))),
        ("tail", .shown (optionalIdText (ts.getLast?.map (·.id))))]
    unless ts.isEmpty do wake
    return .ok ts

/-- Cancels a task. -/
def cancel (b : Backend m) (id : Uuid) : m (Outcome Task) := do
  match ← b.cancel id with
  | .error failure => return .error failure
  | .ok t =>
    reportOperation "cancel" t.id t
    return .ok t

/-- A task with its prerequisites and its history. -/
def detail (b : Backend m) (id : Uuid) : m (Outcome TaskDetail) := do
  match ← b.find id with
  | .error failure => return .error failure
  | .ok none => return .error (.taskNotFound id)
  | .ok (some t) =>
    match ← b.dependenciesOf id with
    | .error failure => return .error failure
    | .ok dependencies =>
      match ← b.readLog id with
      | .error failure => return .error failure
      | .ok log => return .ok ⟨t, dependencies, log⟩

end Producer

end

end WorkQueue
