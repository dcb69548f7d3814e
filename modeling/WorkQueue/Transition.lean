/-!
# Transitions

What may happen to a task: a worker claims and starts it, its handler completes or fails, or it is
cancelled.

## Main definitions

* `Action`: the kinds of transition and their names
* `Transition`: an action together with the handler's message on failure
-/

namespace WorkQueue

/-- The kinds of transition. -/
inductive Action where
  | claim
  | start
  | complete
  | fail
  | cancel
  deriving DecidableEq, Inhabited, Repr

/-- The stable name used in log fields and errors. -/
def Action.name : Action → String
  | claim => "claim"
  | start => "start"
  | complete => "complete"
  | fail => "fail"
  | cancel => "cancel"

/-- The name used on the wire. -/
def Action.tag : Action → String
  | claim => "Claim"
  | start => "Start"
  | complete => "Complete"
  | fail => "Fail"
  | cancel => "Cancel"

/-- All actions. -/
def Action.all : List Action := [claim, start, complete, fail, cancel]

/-- A change of a task's status. -/
inductive Transition where
  /-- A worker takes a claimable task. -/
  | claim
  /-- The worker starts the handler. -/
  | start
  /-- The handler succeeded. -/
  | complete
  /-- The handler failed with a message. -/
  | fail (message : String)
  /-- An operator or a producer cancels the task. -/
  | cancel
  deriving DecidableEq, Inhabited, Repr

namespace Transition

/-- The kind of a transition. -/
def action : Transition → Action
  | claim => .claim
  | start => .start
  | complete => .complete
  | fail _ => .fail
  | cancel => .cancel

/-- The message that a failure carries. -/
def message? : Transition → Option String
  | fail message => some message
  | _ => none

end Transition

end WorkQueue
