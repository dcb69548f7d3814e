import WorkQueue.Proofs.Memory.Atomicity

/-!
# Replies of a storage in memory

What each operation returns, as one formula in the rows, the time and the drawn identifiers. The
formulas leave out the rows that the operation writes and check in an order that another storage can
follow: an edge may be tested for a cycle before it is looked for, because stored edges form none.

## Main definitions

* `Memory.State.returned`: what a transition returns, given the row that it writes
* `Memory.State.storedOr`: a stored edge, or a new one

## Main statements

* `Memory.Update.fst_start`, `fst_complete`, `fst_fail`, `fst_addDependency`: results of updates
* `Memory.fst_run_enqueue`, `fst_run_createChain`: results of operations that draw identifiers
-/

namespace WorkQueue.Memory

open Simulation

variable {s : State} {policy : Backoff.Policy}

namespace State

/-! ### Transitions -/

/-- What a transition returns, given the row that it writes, if there is one. -/
def returned (s : State) (id : Uuid) (action : Action) (written : Option Task) : Outcome Task :=
  written.elim (.error (.ofRejected id (s.find? id) action)) .ok

theorem map_returned (f : Task → Task) (s : State) (id : Uuid) (action : Action)
    (written : Option Task) :
    (s.returned id action written).map f = s.returned id action (written.map f) := by
  cases written <;> rfl

end State

/-- A transition with one source finds a row of that status, or refuses the row. -/
theorem Update.fst_transition {action : Action} {source target : Status} (fill : Task → Task)
    (s : State) (id : Uuid) (now : Timestamp) (sources : action.sources = [source])
    (admits : ∀ t : Task, t.status = source → t.target? action = .ok target) :
    ((transition id action now fun _ t => .ok (fill t)).on s).1 =
      s.returned id action (((s.find? id).filter (·.status = source)).map fun t =>
        fill { t with status := target, updatedAt := now }) := by
  rw [on_transition, State.returned]
  cases s.find? id with
  | none => rfl
  | some t =>
    by_cases h : t.status = source
    · have found : (some t).filter (fun t => t.status = source) = some t := by simp [h]
      have admitted : t.status ∈ action.sources := by simp [sources, h]
      rw [found]
      simp only [if_pos admitted, admits t h]
      rfl
    · have missed : (some t).filter (fun t => t.status = source) = none := by simp [h]
      have unlisted : t.status ∉ action.sources := by simp [sources, h]
      rw [missed]
      simp only [if_neg unlisted]
      rfl

theorem Update.fst_start (s : State) (id : Uuid) (now : Timestamp) : ((start id now).on s).1 =
    s.returned id .start (((s.find? id).filter (·.status = .claimed)).map (startedRow now)) :=
  fst_transition _ s id now rfl fun t claimed => by simp [Task.target?, claimed]

theorem Update.fst_complete (s : State) (id : Uuid) (now : Timestamp) :
    ((complete id now).on s).1 = s.returned id .complete
      (((s.find? id).filter (·.status = .processing)).map (completedRow now)) :=
  fst_transition _ s id now rfl fun t processing => by simp [Task.target?, processing]

/-- A failure asks for the task, then for its status, then for its type. -/
theorem Update.fst_fail (s : State) (policy : Backoff.Policy) (id : Uuid) (message : String)
    (now : Timestamp) : ((fail policy id message now).on s).1 =
    (s.find? id).elim (.error (.taskNotFound id)) fun t =>
      match t.target? .fail with
      | .error failure => .error failure
      | .ok _ => (s.findType? t.taskType).elim (.error (.invalidTaskType t.taskType)) fun type =>
        .ok (failedRow policy type message now t) := by
  rw [fail, on_transition]
  cases s.find? id with
  | none => rfl
  | some t =>
    cases status : t.status <;> simp [Action.sources, Task.target?, status, Failure.ofRejected]
    cases s.findType? t.taskType with
    | none => rfl
    | some type => rfl

namespace State

/-! ### Prerequisites -/

/-- The edge between two tasks that is stored, or a new one. -/
def storedOr (s : State) (task prerequisite : Uuid) (now : Timestamp) : Dependency :=
  (s.edges.find? fun e => e.task = task && e.prerequisite = prerequisite).getD
    ⟨task, prerequisite, now⟩

/-- A stored edge keeps its creation instant, a new one has the given one. -/
theorem storedOr_eq (s : State) (task prerequisite : Uuid) (now clock : Timestamp) :
    s.storedOr task prerequisite clock =
      if s.storedOr task prerequisite now ∈ s.edges then s.storedOr task prerequisite now
      else { s.storedOr task prerequisite now with createdAt := clock } := by
  unfold storedOr
  cases known : s.edges.find? fun e => e.task = task && e.prerequisite = prerequisite with
  | some e => simp [List.mem_of_find?_eq_some known]
  | none =>
    have new : (⟨task, prerequisite, now⟩ : Dependency) ∉ s.edges := fun inside => by
      simpa using List.find?_eq_none.1 known _ inside
    simp [new]

end State

/-- The test for a cycle may come before the look-up: no edge that is stored already fails it. -/
theorem Update.fst_addDependency (linked : s.Linked) (task prerequisite : Uuid) (now : Timestamp) :
    ((addDependency task prerequisite now).on s).1 =
      (s.find? task).elim (.error (.taskNotFound task)) fun t =>
        if (s.find? prerequisite).isNone then .error (.taskNotFound prerequisite)
        else if t.status ≠ .pending then
          .error (.invalidDependency (lateDependencyText task t.status))
        else if Dependency.wouldCycle s.edges task prerequisite then
          .error (.cycleDetected task prerequisite)
        else .ok (s.storedOr task prerequisite now) := by
  rw [on_addDependency]
  unfold State.storedOr
  cases s.find? task with
  | none => rfl
  | some t =>
    simp only [Option.elim_some]
    split
    · rfl
    · split
      · rfl
      · cases known : s.edges.find? fun e => e.task = task && e.prerequisite = prerequisite with
        | none =>
          simp only
          split <;> rfl
        | some e =>
          have same := List.find?_some known
          simp only [Bool.and_eq_true, decide_eq_true_eq] at same
          have edge : Dependency.WaitsFor s.edges task prerequisite :=
            ⟨e, List.mem_of_find?_eq_some known, same.1, same.2⟩
          have open_ : ¬ Dependency.wouldCycle s.edges task prerequisite = true := fun cycle =>
            linked.acyclic task (.head' edge (Dependency.wouldCycle_iff.1 cycle))
          simp only [if_neg open_]
          rfl

/-! ### Operations -/

theorem fst_run_performTransition (transition : Transition) (update : Timestamp → Update Task)
    (w : World) : ((performTransition transition update : Sim (Outcome Task)).run w).1 =
      ((update w.clock).on w.memory.state).1 := by
  rw [run_performTransition]
  cases (update w.clock).on w.memory.state with
  | mk outcome s => cases outcome <;> rfl

theorem fst_run_enqueue (spec : NewTask) (w : World) :
    ((enqueue spec : Sim (Outcome Task)).run w).1 =
      (w.memory.state.prepare spec).map fun checked =>
        Task.ofNew checked ((Host.freshId : Sim Uuid).run w).1 w.clock := by
  rw [run_enqueue]
  cases prepared : w.memory.state.prepare spec with
  | error failure => rfl
  | ok checked =>
    have untouched : ((Host.freshId : Sim Uuid).run w).2.memory = w.memory := rfl
    simp only
    rw [run_bind, run_bind, run_perform, untouched, Update.on_enqueue_of_accepted prepared]
    rfl

theorem fst_run_createChain (specs : List NewTask) (w : World) :
    ((createChain specs : Sim (Outcome (List Task))).run w).1 =
      (specs.mapM w.memory.state.prepare).map fun checked =>
        chainRows checked (drawnIds specs w) w.clock := by
  rw [run_createChain]
  cases specs.mapM w.memory.state.prepare <;> rfl

end WorkQueue.Memory
