import WorkQueue.Status
import WorkQueue.Binary64

/-!
# Queue metrics

How many tasks have each status, at one moment.

## Main definitions

* `Metrics`, `Metrics.ofCounts`: the counts
* `Metrics.failureRate`: the share of failed tasks
-/

namespace WorkQueue

/-- The number of tasks of each status. -/
structure Metrics where
  pending : Int := 0
  claimed : Int := 0
  processing : Int := 0
  completed : Int := 0
  failed : Int := 0
  cancelled : Int := 0
  total : Int := 0
  deriving DecidableEq, Inhabited

namespace Metrics

/-- Adds tasks of a status. -/
def add (m : Metrics) (status : Status) (count : Int) : Metrics :=
  let m := { m with total := m.total + count }
  match status with
  | .pending => { m with pending := m.pending + count }
  | .claimed => { m with claimed := m.claimed + count }
  | .processing => { m with processing := m.processing + count }
  | .completed => { m with completed := m.completed + count }
  | .failed => { m with failed := m.failed + count }
  | .cancelled => { m with cancelled := m.cancelled + count }

/-- The metrics that counts of statuses add up to; a status may occur several times. -/
def ofCounts (counts : List (Status × Int)) : Metrics :=
  counts.foldl (fun m (status, count) => m.add status count) {}

/-- The number of tasks of a status. -/
def count (m : Metrics) : Status → Int
  | .pending => m.pending
  | .claimed => m.claimed
  | .processing => m.processing
  | .completed => m.completed
  | .failed => m.failed
  | .cancelled => m.cancelled

/-- The number of tasks that workers hold. -/
def inFlight (m : Metrics) : Int :=
  (Status.all.filter Status.isActive).foldl (fun n status => n + m.count status) 0

/-- The share of failed tasks, zero for an empty queue. -/
def failureRate (m : Metrics) : Binary64 :=
  if 0 < m.total then (Binary64.ofInt m.failed).div (Binary64.ofInt m.total) else .zero

end Metrics

end WorkQueue
