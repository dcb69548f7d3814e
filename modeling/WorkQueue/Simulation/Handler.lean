import WorkQueue.Simulation.World

/-!
# Simulated handlers

What the handlers of a simulated world do, and the record of their calls.

## Main definitions

* `Simulation.Handler.process`: the effects and the end of a handler
* `Simulation.Handler.delay`: how long it waits before that
* `Simulation.enter`, `Simulation.leave`: the record of calls
-/

namespace WorkQueue.Simulation

/-- A message in contexts that were added one after the other: the last one comes first. -/
def inContexts (message : String) (contexts : List String) : String :=
  contexts.foldl (fun told context => s!"{context}: {told}") message

/-- The end that a payload asks for. -/
def payloadResult (payload : Json) : HandlerResult :=
  match payload.member? "fail" with
  | some (.text message) => .failed message
  | _ => .succeeded

namespace Handler

/-- What a handler does once it has waited for its delay. -/
def process (h : Handler) (t : Task) : Sim HandlerResult := do
  match h with
  | .succeed => return .succeeded
  | .fail message contexts => return .failed (inContexts message contexts)
  | .breakOff message => return .brokeOff message
  | .failBefore attempt =>
    return if t.attempts < attempt then .failed s!"attempt {t.attempts}" else .succeeded
  | .obeyPayload => return payloadResult t.payload
  | .sleep => return payloadResult t.payload
  | .cancel target message =>
    let w ← getThe World
    let _ ← Producer.cancel w.backend ((target.map w.idOf).getD t.id)
    return match message with
      | some message => .failed message
      | none => .succeeded
  | .enqueue spec =>
    match ← Producer.enqueue (← backend) wake spec with
    | .ok _ => return .succeeded
    | .error failure => return .failed failure.message
  | .unknown kind => return .failed s!"unknown handler {kind}"

/-- How many milliseconds of virtual time a handler waits. -/
def delay (h : Handler) (t : Task) : Nat :=
  match h, t.payload.member? "ms" with
  | .sleep, some (.number (.integer ms)) => ms.toNat
  | _, _ => 0

end Handler

/-- The handler of a task type. -/
def resolveHandler (taskType : String) : Sim (Outcome Handler) :=
  return (← getThe World).processors.resolve taskType

/-- Notes that the handler of a task is entered. -/
def enter (id : Uuid) : Sim Unit := modifyThe World fun w =>
  let active := w.active + 1
  { w with calls := id :: w.calls, active := active, maxActive := max w.maxActive active }

/-- Notes that a handler is left. -/
def leave : Sim Unit := modifyThe World fun w => { w with active := w.active - 1 }

/-- Starts a record of calls. Handlers of abandoned services stay entered. -/
def clearCalls : Sim Unit := modifyThe World fun w => { w with calls := [], maxActive := 0 }

end WorkQueue.Simulation
