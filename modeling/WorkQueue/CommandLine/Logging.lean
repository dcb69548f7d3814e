import WorkQueue.Settings.Loader
import WorkQueue.Telemetry

/-!
# Logging

How the program writes its events: from which level on, and in which of two formats.

## Main definitions

* `CommandLine.LogFormat`: the formats
* `CommandLine.logLevel`: the least important level that is written
-/

namespace WorkQueue.CommandLine

/-- How events are written. -/
inductive LogFormat where
  /-- Lines for readers. -/
  | pretty
  /-- JSON objects. -/
  | json
  deriving DecidableEq, Inhabited, Repr

namespace LogFormat

def name : LogFormat → String
  | pretty => "Pretty"
  | json => "Json"

/-- The format that a variable chooses. -/
def choose (p : Settings.Surroundings) : LogFormat :=
  match p.lookup? "TASK_QUEUE_LOG_FORMAT" with
  | some text => if text.toLower = "json" then json else pretty
  | none => pretty

end LogFormat

/-- An event as a JSON object. -/
def logRecord (e : Telemetry.Event) : Json := .object [
  ("fields", e.fieldsJson),
  ("level", .text e.level.name),
  ("target", .text e.source)]

/-- The least important level that is written in an environment. -/
def logLevel (environment : String) : Telemetry.Level :=
  if environment ∈ ["production", "staging"] then .info else .debug

/-- The events that are written in an environment. -/
def logged (environment : String) (events : List Telemetry.Event) : List Telemetry.Event :=
  events.filter fun e => (logLevel environment).passes e.level

end WorkQueue.CommandLine
