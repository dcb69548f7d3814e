import WorkQueue.Proofs.Memory.Progress
import WorkQueue.Proofs.Worker.Requests

/-!
# Executions that succeed

If every type of the rows has a processor and no handler fails, each execution goes from stage to
stage: the row of its task is claimed, then started, then completed. Each step touches the row of its
own task only, so executions of one batch do not disturb one another, whatever their order.

## Main definitions

* `Worker.Agent.Handles`, `Worker.Agent.Succeeds`: what is assumed of the processors
* `Worker.Turn.Calls`, `Worker.Turn.InOrder`: what is promised of a step that calls a handler
* `Worker.Stage`: the row that an execution needs
* `Worker.Underway`: the rows while a batch is executed

## Main statements

* `Worker.Stage.step`: a step leads from one stage to the next
* `Worker.Underway.advance`, `Worker.Underway.interleave`: the same for batches in progress
-/

namespace WorkQueue.Worker

open Simulation Dependency
open scoped List
open Memory (Exchange Run State Step)

variable {P : Type} {agent : Agent P} {readings : Timestamp → Prop} {policy : Backoff.Policy}
  {s s' : State} {w w₁ w₂ : World} {id other : Uuid} {e : Execution} {ts : List Task}
  {batch batch₁ batch₂ : Batch} {turn : Turn} {turns turns₁ : List Turn}

/-! ### Processors -/

/-- Every known type has a processor. -/
def Agent.Handles (agent : Agent P) (s : State) : Prop :=
  ∀ type ∈ s.types, (agent.processors.find? type.name).isSome

/-- The handlers of all processors succeed and leave the rows alone. -/
def Agent.Succeeds (agent : Agent P) : Prop :=
  ∀ taskType p, agent.processors.find? taskType = some p → ∀ t w,
    ((agent.process p t).run w).1 = .succeeded ∧
      ((agent.process p t).run w).2.memory.state = w.memory.state

/-- The step of a started execution runs the processor of the task's type on the task, which
succeeds. -/
theorem Agent.Succeeds.step (succeeds : agent.Succeeds) (handles : agent.Handles s) {t : Task}
    {type : TaskType} (known : s.findType? t.taskType = some type) (id : Uuid) (w : World) :
    ∃ p w', agent.processors.resolve t.taskType = .ok p ∧
      (agent.process p t).run w = (.succeeded, w') ∧
      (agent.step (.started id t)).run w = (.handled id (.ok ()), w') ∧
      w'.memory.state = w.memory.state := by
  have name_eq : type.name = t.taskType := by simpa using List.find?_some known
  have registered := handles type (List.mem_of_find?_eq_some known)
  rw [name_eq] at registered
  obtain ⟨p, found⟩ := Option.isSome_iff_exists.1 registered
  have resolved := Processors.resolve_of_find? found
  obtain ⟨succeeded, kept⟩ := succeeds t.taskType p found t w
  have next := Agent.run_step_started resolved id w
  rw [succeeded] at next
  exact ⟨p, _, resolved, Prod.ext succeeded rfl, next, kept⟩

/-- If the step calls a handler, it calls the one that is registered for the type of the task, with
the row that the task has then, and the handler succeeds. -/
def Turn.Calls (agent : Agent P) (turn : Turn) : Prop :=
  ∀ id t, turn.execution = .started id t → turn.world.memory.state.find? id = some t ∧
    ∃ p w', agent.processors.resolve t.taskType = .ok p ∧
      (agent.process p t).run turn.world = (.succeeded, w') ∧
      (agent.step turn.execution).run turn.world = (.handled id (.ok ()), w')

/-! ### Stages -/

/-- How far the row of a task is when its execution is at a point. -/
inductive Stage (s : State) (id : Uuid) : Execution → Prop
  | claimed {t : Task} (found : s.find? id = some t) (status : t.status = .claimed) :
      Stage s id (.claimed id)
  | started {t : Task} (found : s.find? id = some t) (status : t.status = .processing) :
      Stage s id (.started id t)
  | handled {t : Task} (found : s.find? id = some t) (status : t.status = .processing) :
      Stage s id (.handled id (.ok ()))
  | finished (completed : s.Completed id) : Stage s id (.finished .completed)

/-- Only the row of its own task matters to an execution. -/
theorem Stage.of_find?_eq (stage : Stage s id e) (same : s'.find? id = s.find? id) :
    Stage s' id e := by
  cases stage with
  | claimed found status => exact .claimed (same.trans found) status
  | started found status => exact .started (same.trans found) status
  | handled found status => exact .handled (same.trans found) status
  | finished completed =>
    obtain ⟨t, found, status⟩ := completed
    exact .finished ⟨t, same.trans found, status⟩

/-- What a step of the execution of a task leaves: the rows as they were, or with the next row of
the task. -/
inductive Touched (policy : Backoff.Policy) (s : State) (id : Uuid) : State → Prop
  | kept : Touched policy s id s
  | moved {x : Exchange} {t : Task} (step : Step policy s x (s.put t)) (id_eq : t.id = id) :
      Touched policy s id (s.put t)

namespace Touched

theorem find?_of_ne (touched : Touched policy s id s') (ne : other ≠ id) :
    s'.find? other = s.find? other := by
  cases touched with
  | kept => rfl
  | moved step id_eq => exact State.find?_put_of_ne (id_eq ▸ ne)

theorem ids_eq (touched : Touched policy s id s') :
    s'.tasks.map (·.id) = s.tasks.map (·.id) := by
  cases touched with
  | kept => rfl
  | moved => exact State.ids_put

theorem edges_eq (touched : Touched policy s id s') : s'.edges = s.edges := by
  cases touched with
  | kept | moved => rfl

theorem types_eq (touched : Touched policy s id s') : s'.types = s.types := by
  cases touched with
  | kept | moved => rfl

theorem reachable (touched : Touched policy s id s') (run : ∃ history, Run policy {} history s) :
    ∃ history, Run policy {} history s' := by
  obtain ⟨history, run⟩ := run
  cases touched with
  | kept => exact ⟨history, run⟩
  | moved step => exact ⟨_, run.snoc step⟩

end Touched

/-- The task of an execution whose handler has been called. -/
def Execution.called (id : Uuid) (e : Execution) : List Uuid := if e.remaining ≤ 1 then [id] else []

/-- What a step of a successful execution does. -/
structure Stepped (policy : Backoff.Policy) (w : World) (id : Uuid) (e : Execution)
    (next : Execution × World) : Prop where
  stage : Stage next.2.memory.state id next.1
  touched : Touched policy w.memory.state id next.2.memory.state
  called : next.1.called id = e.called id ++ e.invoked?.toList

/-- A step leads from one stage to the next. -/
theorem Stage.step (stage : Stage w.memory.state id e) (unfinished : 0 < e.remaining)
    (run : ∃ history, Run agent.policy {} history w.memory.state)
    (handles : agent.Handles w.memory.state) (succeeds : agent.Succeeds) :
    Stepped agent.policy w id e ((agent.step e).run w) := by
  cases stage with
  | @claimed t found status =>
    obtain rfl := State.id_of_find? found
    have served : w.memory.state.serve agent.policy (.start t.id w.clock) = _ :=
      State.serve_start found status
    obtain ⟨next, rows⟩ := step_of_served agent (.claimed t.id) rfl served
    refine ⟨?_, ?_, ?_⟩
    · rw [next, rows]
      exact .started (State.find?_put_self found) rfl
    · rw [rows]
      exact .moved (.of_serve served trivial) rfl
    · rw [next]
      rfl
  | @started t found status =>
    obtain ⟨history, run⟩ := run
    -- types are never forgotten, so the type of the task has a processor
    obtain ⟨type, known⟩ := run.exists_type found
    obtain ⟨_, w', -, -, next, rows⟩ := succeeds.step handles known id w
    rw [next]
    refine ⟨?_, ?_, ?_⟩
    · rw [rows]
      exact .handled found status
    · rw [rows]
      exact .kept
    · rw [← State.id_of_find? found]
      rfl
  | @handled t found status =>
    obtain rfl := State.id_of_find? found
    have served : w.memory.state.serve agent.policy (.complete t.id w.clock) = _ :=
      State.serve_complete found status
    obtain ⟨next, rows⟩ := step_of_served agent (.handled t.id (.ok ())) rfl served
    refine ⟨?_, ?_, ?_⟩
    · rw [next, rows]
      exact .finished ⟨_, State.find?_put_self found, rfl⟩
    · rw [rows]
      exact .moved (.of_serve served trivial) rfl
    · rw [next]
      rfl
  | finished => exact absurd unfinished (Nat.lt_irrefl 0)

/-! ### Batches -/

/-- The tasks of a batch whose handlers have been called. -/
def Batch.called (batch : Batch) : List Uuid := batch.flatMap fun x => x.2.called x.1

/-- If the step of one execution calls a handler, it is added to those that have been called. -/
theorem Batch.perm_called {before after : Batch} {e' : Execution} {calls more : List Uuid}
    (called : e'.called id = e.called id ++ more)
    (perm : calls ~ Batch.called (before ++ (id, e) :: after)) :
    calls ++ more ~ Batch.called (before ++ (id, e') :: after) := by
  simp only [Batch.called, List.flatMap_append, List.flatMap_cons] at perm ⊢
  rw [called]
  calc calls ++ more
    _ ~ (before.called ++ (e.called id ++ after.called)) ++ more := perm.append_right _
    _ = before.called ++ (e.called id ++ (after.called ++ more)) := by
      simp only [List.append_assoc]
    _ ~ before.called ++ (e.called id ++ (more ++ after.called)) :=
      (List.perm_append_comm.append_left _).append_left _
    _ = before.called ++ (e.called id ++ more ++ after.called) := by
      rw [List.append_assoc (e.called id)]

/-- If the step calls the handler of a task, all that the task depends on is completed by then. -/
def Turn.InOrder (edges : List Dependency) (turn : Turn) : Prop :=
  ∀ id, turn.execution.invoked? = some id → ∀ b, DependsOn edges id b →
    turn.world.memory.state.Completed b

/-- The rows while a batch is executed, seen from the rows after its claim. -/
structure Underway (agent : Agent P) (s : State) (ids : List Uuid) (turns : List Turn) (w : World)
    (batch : Batch) : Prop where
  reachable : ∃ history, Run agent.policy {} history w.memory.state
  keys : batch.map (·.1) = ids
  stage : ∀ x ∈ batch, Stage w.memory.state x.1 x.2
  /-- All rows are there, and those of other tasks are the same. -/
  ids_eq : w.memory.state.tasks.map (·.id) = s.tasks.map (·.id)
  others : ∀ id ∉ ids, w.memory.state.find? id = s.find? id
  edges_eq : w.memory.state.edges = s.edges
  types_eq : w.memory.state.types = s.types
  /-- Each handler is called once. -/
  invoked : (invocations turns).Perm batch.called
  calls : ∀ turn ∈ turns, turn.Calls agent
  inOrder : ∀ turn ∈ turns, turn.InOrder s.edges

theorem invocations_concat (turns : List Turn) (turn : Turn) :
    invocations (turns ++ [turn]) = invocations turns ++ turn.execution.invoked?.toList := by
  rw [invocations, List.filterMap_append]
  cases h : turn.execution.invoked? <;> simp [invocations, h]

theorem Stage.calls (stage : Stage w.memory.state id e)
    (run : ∃ history, Run agent.policy {} history w.memory.state)
    (handles : agent.Handles w.memory.state) (succeeds : agent.Succeeds) :
    Turn.Calls agent ⟨w, e⟩ := by
  rintro _ t rfl
  obtain ⟨history, run⟩ := run
  cases stage with
  | started found status =>
    obtain ⟨type, known⟩ := run.exists_type found
    obtain ⟨p, w', resolved, succeeded, next, -⟩ := succeeds.step handles known id w
    exact ⟨found, p, w', resolved, succeeded, next⟩

theorem Stage.inOrder (stage : Stage w.memory.state id e)
    (run : ∃ history, Run agent.policy {} history w.memory.state) :
    Turn.InOrder w.memory.state.edges ⟨w, e⟩ := by
  intro invoked h b path
  obtain ⟨history, run⟩ := run
  cases stage with
  | @started t found status =>
    obtain rfl : t.id = invoked := Option.some.inj h
    rw [State.id_of_find? found] at path
    -- its claim has looked at its prerequisites, and completed tasks stay completed
    have claimed : t.claimedBy.isSome :=
      (run.journey found).claimedBy_of_status (by simp [status, Memory.pastClaim])
    exact run.completed_of_dependsOn found claimed path
  | claimed | handled | finished => cases h

/-- A step of any execution of a batch keeps the others where they are. -/
theorem Underway.advance {ids : List Uuid} (underway : Underway agent s ids turns w batch)
    (nodup : ids.Nodup) (handles : agent.Handles s) (succeeds : agent.Succeeds)
    (next : Advance agent readings w batch turn w₁ batch₁) :
    Underway agent s ids (turns ++ [turn]) w₁ batch₁ := by
  obtain @⟨before, after, id, e, now, reading, unfinished⟩ := next
  have stage : Stage (w.withClock now).memory.state id e :=
    underway.stage (id, e) (List.mem_append_right _ List.mem_cons_self)
  have handles₁ : agent.Handles (w.withClock now).memory.state := by
    intro type known
    exact handles type (underway.types_eq ▸ known)
  have stepped := stage.step unfinished underway.reachable handles₁ succeeds
  have turnCalls := stage.calls underway.reachable handles₁ succeeds
  have turnInOrder := stage.inOrder underway.reachable
  generalize (agent.step e).run (w.withClock now) = result at stepped ⊢
  have keys := underway.keys
  rw [← keys] at nodup
  have member : id ∈ ids := by
    rw [← keys]
    simp
  constructor
  · exact stepped.touched.reachable underway.reachable
  · rw [← keys]
    simp
  · intro x hx
    have split : x = (id, result.1) ∨ x ∈ before ∨ x ∈ after := by simpa [or_left_comm] using hx
    rcases split with rfl | another
    · exact stepped.stage
    · -- its task has another row, which the step has not touched
      have ne := Batch.ne_of_nodup nodup another
      have inside : x ∈ before ++ (id, e) :: after :=
        List.mem_append.2 (another.imp_right (List.mem_cons_of_mem _))
      exact (underway.stage x inside).of_find?_eq (stepped.touched.find?_of_ne ne)
  · rw [stepped.touched.ids_eq]
    exact underway.ids_eq
  · intro other outside
    have ne : other ≠ id := by
      rintro rfl
      exact outside member
    exact (stepped.touched.find?_of_ne ne).trans (underway.others other outside)
  · rw [stepped.touched.edges_eq]
    exact underway.edges_eq
  · rw [stepped.touched.types_eq]
    exact underway.types_eq
  · rw [invocations_concat]
    exact Batch.perm_called stepped.called underway.invoked
  · exact List.forall_mem_append.2 ⟨underway.calls, List.forall_mem_singleton.2 turnCalls⟩
  · refine List.forall_mem_append.2 ⟨underway.inOrder, List.forall_mem_singleton.2 ?_⟩
    rw [← underway.edges_eq]
    exact turnInOrder

theorem Underway.interleave {ids : List Uuid} (underway : Underway agent s ids [] w batch)
    (nodup : ids.Nodup) (handles : agent.Handles s) (succeeds : agent.Succeeds)
    (steps : Interleaving agent readings w batch turns w₁ batch₁) :
    Underway agent s ids turns w₁ batch₁ := by
  induction steps with
  | nil => exact underway
  | snoc _ next ih => exact ih.advance nodup handles succeeds next

/-- Nothing has been started in a batch whose tasks are claimed. -/
theorem underway_batchOf (run : ∃ history, Run agent.policy {} history w.memory.state)
    (claimed : ∀ t ∈ ts, w.memory.state.find? t.id = some t ∧ t.status = .claimed) :
    Underway agent w.memory.state (ts.map (·.id)) [] w (batchOf ts) where
  reachable := run
  keys := by simp [batchOf, Function.comp_def]
  stage x hx := by
    obtain ⟨t, ht, rfl⟩ := List.mem_map.1 hx
    exact .claimed (claimed t ht).1 (claimed t ht).2
  ids_eq := rfl
  others _ _ := rfl
  edges_eq := rfl
  types_eq := rfl
  invoked := by simp [invocations, Batch.called, batchOf, Execution.called, Execution.remaining]
  calls _ hturn := absurd hturn List.not_mem_nil
  inOrder _ hturn := absurd hturn List.not_mem_nil

theorem Underway.keyed {ids : List Uuid} (underway : Underway agent s ids turns w batch) :
    w.memory.state.Keyed := by
  obtain ⟨history, run⟩ := underway.reachable
  exact run.keyed Memory.keyed_empty

/-- At the end the tasks of the batch are completed, and each handler has been called. -/
theorem Underway.finished {ids : List Uuid} (underway : Underway agent s ids turns w batch)
    (finished : batch.Finished) :
    (∀ id ∈ ids, w.memory.state.Completed id) ∧ (invocations turns).Perm ids := by
  constructor
  · intro id hid
    rw [← underway.keys] at hid
    obtain ⟨x, hx, rfl⟩ := List.mem_map.1 hid
    have ended := finished x hx
    have stage := underway.stage x hx
    generalize x.2 = e at ended stage
    cases stage with
    | finished completed => exact completed
    | claimed | started | handled => cases ended
  · have called : batch.called = ids := by
      rw [← underway.keys, Batch.called, List.map_eq_flatMap]
      refine List.flatMap_congr fun x hx => ?_
      rw [Execution.called, finished x hx]
      rfl
    exact called ▸ underway.invoked

end WorkQueue.Worker
