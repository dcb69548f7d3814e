import WorkQueue.Telemetry
import WorkQueue.Timestamp
import WorkQueue.Uuid

/-!
# The host of a queue

What a queue asks of its surroundings, storage aside: the time, new identifiers, and a place for
telemetry.

## Main definitions

* `Host`: the three services
-/

namespace WorkQueue

/-- The services that operations of a queue use. -/
class Host (m : Type → Type) where
  /-- The current instant. -/
  now : m Timestamp
  /-- An identifier that has not been handed out before. -/
  freshId : m Uuid
  /-- Reports an event. -/
  emit : Telemetry.Event → m Unit

namespace Host

variable {m : Type → Type} [Host m]

/-- Reports an event of a level. -/
def report (level : Telemetry.Level) (source message : String)
    (fields : List (String × Telemetry.Value) := []) : m Unit :=
  emit ⟨level, source, message, fields⟩

end Host

end WorkQueue
