import WorkQueue.Proofs.Memory.Logging
import WorkQueue.Proofs.Worker.Interleaving

/-!
# What executions ask of the storage

A step of an execution is one call of the storage, or the end of a handler. A call changes the rows
as serving it does, and its reply alone decides where the execution goes on.

## Main definitions

* `Worker.Execution.call?`, `Worker.Execution.resume`: the call of a step, and what follows a reply
* `Worker.Agent.KeepsRows`: handlers that leave the rows alone

## Main statements

* `Worker.step_of_call`, `Worker.log_of_call`: a step with a call serves it, resumes from the reply, and
  writes the entries of the call
* `Worker.Agent.run_step_started`: the step of a started execution calls its handler
* `Worker.step_of_started`: the end of a handler keeps the rows
-/

namespace WorkQueue.Worker

open Simulation
open Memory (Call Reply State)

variable {P : Type} {agent : Agent P} {w : World} {e : Execution} {call : Call} {row : Task}

/-- The call that the next step of an execution makes. -/
def Execution.call? (now : Timestamp) : Execution → Option Call
  | .claimed id => some (.start id now)
  | .started .. => none
  | .handled id (.ok ()) => some (.complete id now)
  | .handled id (.error failure) => some (.fail id (lastErrorText failure) now)
  | .finished _ => none

/-- Where an execution stands after the reply to its call. -/
def Execution.resume : Execution → Reply → Execution
  | .claimed id, .task t => .started id t
  | .handled _ (.ok ()), .task _ => .finished .completed
  | .handled _ (.error _), .task _ => .finished .failed
  | _, _ => .finished .skipped

/-- The handlers of an agent leave the rows alone. -/
def Agent.KeepsRows (agent : Agent P) : Prop :=
  ∀ p t w, ((agent.process p t).run w).2.memory.state = w.memory.state

/-! ### Steps with a call -/

theorem memory_reportDropped (id : Uuid) (operation : String) (failure : Failure) (w : World) :
    ((reportDropped id operation failure : Sim Unit).run w).2.memory = w.memory := by
  unfold reportDropped
  split
  · rfl
  · rfl

theorem start_serves (agent : Agent P) (id : Uuid) (w : World) :
    ((Execution.start agent.storage id).run w).1 =
        (Execution.claimed id).resume (w.memory.state.serve agent.policy (.start id w.clock)).1 ∧
      ((Execution.start agent.storage id).run w).2.memory.state =
        (w.memory.state.serve agent.policy (.start id w.clock)).2 := by
  have called : (agent.storage.start id).run w = _ :=
    Memory.run_performTransition .start (Memory.Update.start id) w
  rw [Execution.start, run_bind, called, State.serve, State.answer]
  rcases (Memory.Update.start id w.clock).on w.memory.state with ⟨failure | t, s⟩
  · exact ⟨rfl, (logged_report _ _ _ _ (w.withRows s)).rows⟩
  · exact ⟨rfl, (Memory.logged_recordTransition _ _ _).rows⟩

theorem complete_serves (agent : Agent P) (id : Uuid) (w : World) :
    Execution.finished ((Execution.conclude agent.storage id (.ok ())).run w).1 =
        (Execution.handled id (.ok ())).resume
          (w.memory.state.serve agent.policy (.complete id w.clock)).1 ∧
      ((Execution.conclude agent.storage id (.ok ())).run w).2.memory.state =
        (w.memory.state.serve agent.policy (.complete id w.clock)).2 := by
  have called : (agent.storage.complete id).run w = _ :=
    Memory.run_performTransition .complete (Memory.Update.complete id) w
  rw [Execution.conclude, run_bind, called, State.serve, State.answer]
  rcases (Memory.Update.complete id w.clock).on w.memory.state with ⟨failure | t, s⟩
  · exact ⟨rfl, congrArg Memory.state (memory_reportDropped _ _ _ (w.withRows s))⟩
  · exact ⟨rfl, (Memory.logged_recordTransition _ _ _).rows⟩

theorem fail_serves (agent : Agent P) (id : Uuid) (failure : Failure) (w : World) :
    Execution.finished ((Execution.conclude agent.storage id (.error failure)).run w).1 =
        (Execution.handled id (.error failure)).resume
          (w.memory.state.serve agent.policy (.fail id (lastErrorText failure) w.clock)).1 ∧
      ((Execution.conclude agent.storage id (.error failure)).run w).2.memory.state =
        (w.memory.state.serve agent.policy (.fail id (lastErrorText failure) w.clock)).2 := by
  have called : (agent.storage.fail id (lastErrorText failure)).run w = _ :=
    Memory.run_performTransition (.fail (lastErrorText failure))
      (Memory.Update.fail agent.policy id (lastErrorText failure)) w
  rw [Execution.conclude, run_bind, called, State.serve, State.answer]
  rcases (Memory.Update.fail agent.policy id (lastErrorText failure) w.clock).on w.memory.state
    with ⟨refusal | t, s⟩
  · exact ⟨rfl, congrArg Memory.state (memory_reportDropped _ _ _ (w.withRows s))⟩
  · have rows :=
      (Memory.logged_recordTransition (.fail (lastErrorText failure)) t (w.withRows s)).rows
    -- the report depends on whether attempts are left, the verdict does not
    by_cases exhausted : t.retriesExhausted
    · simp only [exhausted, if_true]
      exact ⟨rfl, rows⟩
    · simp only [exhausted]
      exact ⟨rfl, rows⟩

/-- A step with a call serves it and resumes from the reply. -/
theorem step_of_call (agent : Agent P) (h : e.call? w.clock = some call) :
    ((agent.step e).run w).1 = e.resume (w.memory.state.serve agent.policy call).1 ∧
      ((agent.step e).run w).2.memory.state = (w.memory.state.serve agent.policy call).2 := by
  cases e with
  | claimed id =>
    obtain rfl := Option.some.inj h
    exact start_serves agent id w
  | handled id result =>
    cases result with
    | ok _ =>
      obtain rfl := Option.some.inj h
      exact complete_serves agent id w
    | error failure =>
      obtain rfl := Option.some.inj h
      exact fail_serves agent id failure w
  | started | finished => cases h

/-- A step whose call leaves a row in place of another one. -/
theorem step_of_served (agent : Agent P) (e : Execution) (h : e.call? w.clock = some call)
    (served : w.memory.state.serve agent.policy call = (.task row, w.memory.state.put row)) :
    ((agent.step e).run w).1 = e.resume (.task row) ∧
      ((agent.step e).run w).2.memory.state = w.memory.state.put row := by
  have step := step_of_call agent h
  rwa [served] at step

/-- A step with a call writes the entries of the call. -/
theorem log_of_call (agent : Agent P) (h : e.call? w.clock = some call) :
    ((agent.step e).run w).2.memory.log = w.memory.log.writeAll
      (Memory.Exchange.written ⟨call, (w.memory.state.serve agent.policy call).1⟩) w.clock := by
  -- a request writes them, and what follows it in a step is only reported
  cases e with
  | claimed id =>
    obtain rfl := Option.some.inj h
    refine Eq.trans ?_ ((Memory.Request.start id).serves agent.policy w).log
    show ((Execution.start agent.storage id).run w).2.memory.log =
      ((agent.storage.start id).run w).2.memory.log
    rw [Execution.start, run_bind]
    cases ((agent.storage.start id).run w).1 with
    | ok t => rfl
    | error failure => rfl
  | handled id result =>
    cases result with
    | ok _ =>
      obtain rfl := Option.some.inj h
      refine Eq.trans ?_ ((Memory.Request.complete id).serves agent.policy w).log
      show ((Execution.conclude agent.storage id (.ok ())).run w).2.memory.log =
        ((agent.storage.complete id).run w).2.memory.log
      rw [Execution.conclude, run_bind]
      cases ((agent.storage.complete id).run w).1 with
      | ok t => rfl
      | error failure => exact congrArg Memory.log (memory_reportDropped _ _ _ _)
    | error failure =>
      obtain rfl := Option.some.inj h
      refine Eq.trans ?_ ((Memory.Request.fail id (lastErrorText failure)).serves agent.policy w).log
      show ((Execution.conclude agent.storage id (.error failure)).run w).2.memory.log =
        ((agent.storage.fail id (lastErrorText failure)).run w).2.memory.log
      rw [Execution.conclude, run_bind]
      cases ((agent.storage.fail id (lastErrorText failure)).run w).1 with
      | ok t =>
        by_cases exhausted : t.retriesExhausted
        · simp only [exhausted, if_true]
          rfl
        · simp only [exhausted]
          rfl
      | error refusal => exact congrArg Memory.log (memory_reportDropped _ _ _ _)
  | started | finished => cases h

/-- The step of a started execution runs the processor of the task's type on the task. -/
theorem Agent.run_step_started {p : P} {t : Task}
    (resolved : agent.processors.resolve t.taskType = .ok p) (id : Uuid) (w : World) :
    (agent.step (.started id t)).run w =
      (.handled id (outcomeOf t.taskType ((agent.process p t).run w).1),
        ((agent.process p t).run w).2) := by
  have found : (agent.resolve t.taskType).run w = (.ok p, w) := by
    rw [Agent.resolve, resolved]
    rfl
  rw [Agent.step, Execution.step, Execution.handle, run_bind, run_bind, found]
  rfl

/-- The end of a handler keeps the rows. -/
theorem step_of_started (keeps : agent.KeepsRows) (id : Uuid) (t : Task) (w : World) :
    ∃ result, ((agent.step (.started id t)).run w).1 = .handled id result ∧
      ((agent.step (.started id t)).run w).2.memory.state = w.memory.state := by
  refine ⟨_, rfl, ?_⟩
  show ((Execution.handle agent.resolve agent.process t).run w).2.memory.state = _
  have resolved : (agent.resolve t.taskType).run w =
      (agent.processors.resolve t.taskType, w) := rfl
  rw [Execution.handle, run_bind, resolved]
  cases agent.processors.resolve t.taskType with
  | error failure => rfl
  | ok p => exact keeps p t w

end WorkQueue.Worker
