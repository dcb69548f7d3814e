import WorkQueue.Task

/-!
# Listing filters

Which tasks a listing shows.

## Main definitions

* `Filter`, `Filter.accepts`
-/

namespace WorkQueue

/-- The conditions of a listing; an absent condition accepts every task. -/
structure Filter where
  status : Option Status := none
  taskType : Option String := none
  /-- Created at this instant or later. -/
  createdFrom : Option Timestamp := none
  /-- Created before this instant. -/
  createdUntil : Option Timestamp := none
  deriving DecidableEq, Inhabited

namespace Filter

def withStatus (f : Filter) (status : Status) : Filter := { f with status := some status }

def withTaskType (f : Filter) (taskType : String) : Filter := { f with taskType := some taskType }

def createdBetween (f : Filter) (start stop : Timestamp) : Filter :=
  { f with createdFrom := some start, createdUntil := some stop }

/-- All conditions hold of the task. -/
def accepts (f : Filter) (t : Task) : Bool :=
  f.status.all (fun s => decide (t.status = s)) &&
    f.taskType.all (fun name => decide (t.taskType = name)) &&
    f.createdFrom.all (fun start => decide (start ≤ t.createdAt)) &&
    f.createdUntil.all (fun stop => decide (t.createdAt < stop))

end Filter

/-- Strictly earlier in a listing: newer tasks first, of one instant the smaller identifier. -/
def Task.listsBefore (a b : Task) : Bool :=
  b.createdAt < a.createdAt || a.createdAt = b.createdAt && a.id < b.id

/-- The tasks in listing order. -/
def Task.sortForListing (tasks : List Task) : List Task :=
  tasks.mergeSort fun a b => !listsBefore b a

end WorkQueue
