import WorkQueue.Alert
import WorkQueue.Backend

/-!
# Monitoring

A monitor samples the metrics of a queue and raises alerts.

## Main definitions

* `Monitor.Report`, `Monitor.check`: one sample
* `Monitor.started`, `Monitor.round`, `Monitor.stopped`: the parts of a monitor loop
-/

namespace WorkQueue.Monitor

/-- Metrics and the alerts that they raise. -/
structure Report where
  metrics : Metrics
  alerts : List Alert
  deriving Inhabited

/-- Where the monitor reports from. -/
def source : String := "task_queue::monitor"

variable {m : Type → Type} [Monad m] [Host m]

/-- Samples the metrics once; each alert is reported as a warning. -/
def check (b : Backend m) (thresholds : Settings.Monitor) : m (Outcome Report) := do
  match ← b.metrics with
  | .error failure => return .error failure
  | .ok metrics =>
    let alerts := Alert.evaluate metrics thresholds
    for alert in alerts do
      Host.report .warn source "Task queue alert"
        [("alert", .shown alert.kind.name), ("current", .binary alert.current),
          ("threshold", .binary alert.threshold)]
    Host.report .debug source "Queue metrics checked"
      [("pending", .integer metrics.pending), ("failed", .integer metrics.failed),
        ("total", .integer metrics.total), ("failure_rate", .binary metrics.failureRate)]
    return .ok ⟨metrics, alerts⟩

/-- Reports that a monitor loop starts. -/
def started (thresholds : Settings.Monitor) : m Unit :=
  Host.report .info source "Queue monitor started"
    [("check_interval_seconds", .integer thresholds.checkIntervalSeconds),
      ("pending_tasks", .integer thresholds.pendingTasks),
      ("failed_tasks", .integer thresholds.failedTasks),
      ("failure_rate", .binary thresholds.failureRate)]

/-- One round of a monitor loop: a sample; a failure is reported, and the loop goes on. -/
def round (b : Backend m) (thresholds : Settings.Monitor) : m Unit := do
  match ← check b thresholds with
  | .ok _ => pure ()
  | .error failure =>
    Host.report .error source "Queue metrics check failed" [("error", .shown failure.message)]

/-- Reports that a monitor loop has ended. -/
def stopped : m Unit := Host.report .info source "Queue monitor stopped"

end WorkQueue.Monitor
