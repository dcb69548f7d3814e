import WorkQueue.Task
import WorkQueue.Timestamp.Text

/-!
# The task log

The append-only history of each task, and the line that each transition writes.

## Main definitions

* `LogLevel`, `NewLogEntry`, `LogEntry`: entries
* `Transition.logLine?`: the level and message of a transition that has just been stored
-/

namespace WorkQueue

/-- How serious an entry is. -/
inductive LogLevel where
  | info
  | error
  deriving DecidableEq, Inhabited, Repr

namespace LogLevel

def name : LogLevel → String
  | info => "info"
  | error => "error"

instance : ToString LogLevel := ⟨name⟩

/-- The level with a given stored text. -/
def ofText? (s : String) : Option LogLevel := [info, error].find? fun level => level.name = s

/-- What is said of a text that names no level. -/
def unknownText (s : String) : String := s!"Invalid log level: {s}"

end LogLevel

/-- An entry to be appended. -/
structure NewLogEntry where
  task : Uuid
  level : LogLevel
  message : String
  deriving DecidableEq, Inhabited

/-- A stored entry. -/
structure LogEntry where
  id : Int
  task : Uuid
  level : LogLevel
  message : String
  recordedAt : Timestamp
  deriving DecidableEq, Inhabited

/-- How a task log shows itself in diagnostics: without its entries. -/
def LogEntry.logDiagnostic : String := "TaskLog \x7b .. \x7d"

/-- The message of a failed attempt: the error, and the retry instant or that none follows. -/
def Task.failureLine (t : Task) (error : String) : String :=
  match t.nextAttemptAt with
  | some retry =>
    s!"Attempt {t.attempts} failed: {error}. Retry scheduled for {retry.toOffsetText}"
  | none =>
    s!"Attempt {t.attempts} failed: {error}. Retries exhausted, manual intervention required"

/-- The level and message for a transition of a task, given as it is stored afterwards. A start
writes nothing: the claim before it already tells the attempt. -/
def Transition.logLine? (transition : Transition) (t : Task) : Option (LogLevel × String) :=
  match transition with
  | .claim =>
    let worker := t.claimedBy.getD "unknown worker"
    some (.info, s!"Claimed by {worker} for attempt {t.attempts + 1}")
  | .start => none
  | .complete => some (.info, s!"Task completed after {t.attempts} attempt(s)")
  | .fail error => some (.error, t.failureLine error)
  | .cancel => some (.info, "Task cancelled")

end WorkQueue
