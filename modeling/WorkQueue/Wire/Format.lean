import WorkQueue.Wire.Settings
import WorkQueue.Wire.Tasks

/-!
# Wire formats

For each type that is read from JSON texts, the members that matter, the decoder, and the encoder.
Members that do not matter may hold values that could not be read.

## Main definitions

* `Wire.Format`: the three parts
* `Wire.Format.read`: reading a text
-/

namespace WorkQueue.Wire

open Json (Outline)

/-- How values of a type are read and written. -/
structure Format (α : Type) where
  /-- The members that are decoded. -/
  outline : Outline
  decode : Json → Decode α
  encode : α → Json

namespace Format

/-- Reads a text. What follows the value is looked at last, so that a refused value comes first. -/
def read {α : Type} (f : Format α) (text : String) : Decode α :=
  match Json.readOutlined? f.outline text with
  | none => .error .malformed
  | some (j, rest) => do
    let value ← f.decode j
    if (Json.dropSpace rest).isEmpty then .ok value else .error .malformed

def task : Format Task := ⟨.named taskFields, Wire.task, ofTask⟩

def newTask : Format NewTask := ⟨.named newTaskFields, Wire.newTask, ofNewTask⟩

def taskType : Format TaskType := ⟨.named taskTypeFields, Wire.taskType, ofTaskType⟩

def newTaskType : Format NewTaskType :=
  ⟨.named newTaskTypeFields, Wire.newTaskType, ofNewTaskType⟩

def dependency : Format Dependency := ⟨.named dependencyFields, Wire.dependency, ofDependency⟩

def logEntry : Format LogEntry := ⟨.named logEntryFields, Wire.logEntry, ofLogEntry⟩

def newLogEntry : Format NewLogEntry := ⟨.named newLogEntryFields, Wire.newLogEntry, ofNewLogEntry⟩

def status : Format Status := ⟨.whole, Wire.status, ofStatus⟩

def logLevel : Format LogLevel := ⟨.whole, Wire.logLevel, ofLogLevel⟩

def transition : Format Transition := ⟨.named transitionFields, Wire.transition, ofTransition⟩

def filter : Format Filter := ⟨.named filterFields, Wire.filter, ofFilter⟩

def pageRequest : Format PageRequest := ⟨.named pageRequestFields, Wire.pageRequest, ofPageRequest⟩

/-- Pages of any values. -/
def page : Format (Page Json) where
  outline := .fields [("data", .items .whole), ("meta", .named pageMetaFields)]
  decode := Wire.page anything
  encode := ofPage id

def strategy : Format Backoff.Strategy := ⟨.whole, Wire.strategy, ofStrategy⟩

def policy : Format Backoff.Policy := ⟨.named policyFields, Wire.policy, ofPolicy⟩

def databaseSection : Format Settings.Database :=
  ⟨.named databaseFields, Wire.databaseSection, ofDatabaseSection⟩

def workerSection : Format Settings.Worker :=
  ⟨.named workerFields, Wire.workerSection, ofWorkerSection⟩

def monitorSection : Format Settings.Monitor :=
  ⟨.named monitorFields, Wire.monitorSection, ofMonitorSection⟩

def taskTypeEntry : Format Settings.TaskTypeEntry :=
  ⟨.named taskTypeEntryFields, Wire.taskTypeEntry, ofTaskTypeEntry⟩

def settings : Format Settings where
  outline := .fields [
    ("database", databaseSection.outline),
    ("worker", workerSection.outline),
    ("backoff", policy.outline),
    ("monitor", monitorSection.outline),
    ("task_types", .items taskTypeEntry.outline)]
  decode := Wire.settings
  encode := ofSettings

end Format

end WorkQueue.Wire
