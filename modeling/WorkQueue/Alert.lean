import WorkQueue.Metrics
import WorkQueue.Settings.Sections

/-!
# Alerts

A metric that exceeds its threshold raises an alert. A value equal to its threshold does not.

## Main definitions

* `Alert`, `Alert.evaluate`: the alerts that metrics raise
-/

namespace WorkQueue

/-- What an alert is about. -/
inductive Alert.Kind where
  | highPendingTasks
  | highFailedTasks
  | highFailureRate
  deriving DecidableEq, Inhabited, Repr

def Alert.Kind.name : Alert.Kind → String
  | highPendingTasks => "high_pending_tasks"
  | highFailedTasks => "high_failed_tasks"
  | highFailureRate => "high_failure_rate"

/-- A threshold and the larger value that exceeds it. -/
structure Alert where
  kind : Alert.Kind
  current : Binary64
  threshold : Binary64
  deriving DecidableEq, Inhabited

/-- The alerts that metrics raise, in the order of their kinds. -/
def Alert.evaluate (m : Metrics) (thresholds : Settings.Monitor) : List Alert :=
  [⟨.highPendingTasks, .ofInt m.pending, .ofInt thresholds.pendingTasks⟩,
    ⟨.highFailedTasks, .ofInt m.failed, .ofInt thresholds.failedTasks⟩,
    ⟨.highFailureRate, m.failureRate, thresholds.failureRate⟩].filter
    fun a => a.threshold.lt a.current

end WorkQueue
