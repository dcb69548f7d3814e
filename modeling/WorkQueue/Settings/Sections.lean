import WorkQueue.Backoff
import WorkQueue.Binary64.Reader
import WorkQueue.TaskType

/-!
# Settings

The settings of a queue in five sections, with their defaults.

## Main definitions

* `Settings` and its sections `Settings.Database`, `Settings.Worker`, `Settings.Monitor`,
  `Settings.TaskTypeEntry`; the section on retries is a `Backoff.Policy`
-/

namespace WorkQueue

/-- Where the database is and how many connections are kept. -/
structure Settings.Database where
  url : String := "postgresql://localhost/task_queue_development"
  maxConnections : Nat := 10
  minConnections : Nat := 1
  acquireTimeoutSeconds : Nat := 10
  /-- Whether connecting applies outstanding migrations. -/
  runMigrations : Bool := true
  deriving DecidableEq, Inhabited

/-- How a worker loop runs. -/
structure Settings.Worker where
  /-- The name stamped on claimed tasks; generated when absent. -/
  workerId : Option String := none
  /-- How many tasks are claimed at most in one round. -/
  batchSize : Nat := 10
  /-- How many handlers run at once. -/
  maxConcurrency : Nat := 4
  pollIntervalMs : Nat := 5000
  shutdownTimeoutSeconds : Nat := 30
  /-- Whether notifications of the database wake the worker. -/
  listenForNotifications : Bool := true
  deriving DecidableEq, Inhabited

/-- A failure rate of one tenth. -/
def Settings.defaultFailureRate : Binary64 := Binary64.ofRatio false 1 10

/-- When the monitor samples, and above which values it raises an alert. -/
structure Settings.Monitor where
  checkIntervalSeconds : Nat := 60
  pendingTasks : Int := 100
  failedTasks : Int := 50
  failureRate : Binary64 := Settings.defaultFailureRate
  deriving DecidableEq, Inhabited

/-- A task type that is registered when the queue connects. -/
structure Settings.TaskTypeEntry where
  name : String
  maxAttempts : Int
  retryBackoffSeconds : Int
  description : Option String := none
  deriving DecidableEq, Inhabited

/-- The settings of a queue. -/
structure Settings where
  database : Settings.Database := {}
  worker : Settings.Worker := {}
  backoff : Backoff.Policy := {}
  monitor : Settings.Monitor := {}
  taskTypes : List Settings.TaskTypeEntry := []
  deriving DecidableEq, Inhabited

namespace Settings

/-- The type to be registered for an entry. -/
def TaskTypeEntry.toNew (e : TaskTypeEntry) : NewTaskType :=
  ⟨e.name, e.maxAttempts, e.retryBackoffSeconds, e.description⟩

def Database.acquireTimeoutMs (d : Database) : Nat := d.acquireTimeoutSeconds * 1000

/-- The name of a worker: the configured one, or one made from a process and an identifier. -/
def Worker.resolvedId (w : Worker) (process : String) (id : Uuid) : String :=
  w.workerId.getD s!"worker-{process}-{id}"

def Worker.shutdownTimeoutMs (w : Worker) : Nat := w.shutdownTimeoutSeconds * 1000

def Monitor.checkIntervalMs (m : Monitor) : Nat := m.checkIntervalSeconds * 1000

end Settings

end WorkQueue
