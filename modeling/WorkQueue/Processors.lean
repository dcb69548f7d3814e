import WorkQueue.Failure
import WorkQueue.Host

/-!
# Processors

Which processor handles the tasks of a type. What a processor is stays open: the table only finds
it by the name of the type.

## Main definitions

* `Processors`: the table
* `Processors.register`, `resolve`, `unregister`: its operations
-/

namespace WorkQueue

/-- How the handler of a task ended. -/
inductive HandlerResult where
  | succeeded
  /-- It reported an error. -/
  | failed (message : String)
  /-- It broke off, with a message if there is one. -/
  | brokeOff (message : Option String)
  deriving DecidableEq, Inhabited

/-- Processors by the name of the task type, at most one of each name. -/
structure Processors (P : Type) where
  entries : List (String × P) := []

instance {P : Type} : Inhabited (Processors P) := ⟨{}⟩

namespace Processors

variable {P : Type}

def find? (ps : Processors P) (taskType : String) : Option P :=
  (ps.entries.find? fun e => e.1 = taskType).map (·.2)

/-- The table without the processor of a type. -/
def erase (ps : Processors P) (taskType : String) : Processors P :=
  ⟨ps.entries.filter fun e => e.1 ≠ taskType⟩

/-- The table with a processor in place of the type's former one. -/
def insert (ps : Processors P) (taskType : String) (p : P) : Processors P :=
  ⟨(taskType, p) :: (ps.erase taskType).entries⟩

/-- The types with a processor, in ascending order. -/
def names (ps : Processors P) : List String :=
  (ps.entries.map (·.1)).mergeSort fun a b => decide (a ≤ b)

/-- The processor of a type. -/
def resolve (ps : Processors P) (taskType : String) : Outcome P :=
  match ps.find? taskType with
  | some p => .ok p
  | none => .error (.processorNotFound taskType)

theorem resolve_of_find? {ps : Processors P} {taskType : String} {p : P}
    (h : ps.find? taskType = some p) : ps.resolve taskType = .ok p := by
  rw [resolve, h]

/-- Registers a processor; replacing another one is reported as a warning. -/
def register {m : Type → Type} [Monad m] [Host m] (ps : Processors P) (taskType : String) (p : P) :
    m (Processors P) := do
  let source := "task_queue::registry::processor_registry"
  if (ps.find? taskType).isSome then
    Host.report .warn source "Replaced existing processor registration"
      [("task_type", .shown taskType)]
  else
    Host.report .info source "Processor registered" [("task_type", .shown taskType)]
  return ps.insert taskType p

/-- Removes the processor of a type, and tells whether there was one. -/
def unregister (ps : Processors P) (taskType : String) : Bool × Processors P :=
  ((ps.find? taskType).isSome, ps.erase taskType)

end Processors

end WorkQueue
