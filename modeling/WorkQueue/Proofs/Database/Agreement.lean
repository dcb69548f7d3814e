import WorkQueue.Proofs.Database.Answering
import WorkQueue.Proofs.Memory.Replies

/-!
# The two storages agree

A database that holds the rows of a storage in memory, and answers every statement from them, leads
each operation to the same result as the storage in memory: the same value, up to instants that the
database takes from its own clock, or the same failure.

The two check in different orders and with different means. A status change is one guarded update
and, if it matched no row, a second look; in memory it is a look-up and the table of transitions. An
edge is tested against a recursive query before it is stored or found stored already; in memory the
stored edges are looked at first. That this makes no difference follows from what holds of all
reachable rows: edges form no cycle.

## Main definitions

* `Database.Mirrors`: answers that are those of given rows
* `Database.mirror`: such answers
* `Database.StoresAgree`: what the operations return

## Main statements

* `Database.stores_agree`: the storages agree on all reachable rows
-/

namespace WorkQueue.Database

open Session Simulation
open Memory (State Run chainRows completedRow drawnIds drawnIds_cons startedRow)

/-! ### Answers from rows -/

/-- The row that an insertion of a task writes: columns that it does not bind have their
defaults. -/
def insertedRow (t : Task) : TaskRow := .ofTask
  { t with
    attempts := 0
    updatedAt := t.createdAt
    nextAttemptAt := none
    lastError := none
    claimedBy := none
    completedAt := none }

/-- The answers of a database that holds the rows of a storage in memory, at a reading of its own
clock. -/
structure Mirrors (s : State) (clock : Timestamp) (answers : Answers) : Prop where
  typeName : ∀ name, answers (.typeName name) = .ok ((s.findType? name).map (·.name)).toList
  typeByName : ∀ name, answers (.typeByName name) = .ok (s.findType? name).toList
  taskById : ∀ id, answers (.taskById id) = .ok ((s.find? id).map TaskRow.ofTask).toList
  lockTask : ∀ id, answers (.lockTask id) = .ok ((s.find? id).map TaskRow.ofTask).toList
  lockStatus : ∀ id, answers (.lockStatus id) = .ok ((s.find? id).map (·.status.name)).toList
  taskExists : ∀ id, answers (.taskExists id) = .ok [(s.find? id).isSome]
  insertTask : ∀ t, answers (.insertTask t) = .ok [insertedRow t]
  /-- The guarded updates find a row in one of their source statuses only. -/
  startTask : ∀ id, answers (.startTask id) = .ok
    ((((s.find? id).filter (·.status = .claimed)).map (startedRow clock)).map .ofTask).toList
  completeTask : ∀ id, answers (.completeTask id) = .ok
    ((((s.find? id).filter (·.status = .processing)).map (completedRow clock)).map .ofTask).toList
  failTask : ∀ id message next completed now, answers (.failTask id message next completed now) =
    .ok ((s.find? id).map fun t => TaskRow.ofTask
      { t with
        status := .failed
        lastError := some message
        nextAttemptAt := next
        completedAt := completed
        updatedAt := now }).toList
  /-- The recursive query follows one or more edges. -/
  reaches : ∀ start goal, ∃ reached : Bool, answers (.reaches start goal) = .ok [reached] ∧
    (reached = true ↔ Dependency.DependsOn s.edges start goal)
  upsertEdge : ∀ task prerequisite, answers (.upsertEdge task prerequisite) =
    .ok [s.storedOr task prerequisite clock]
  /-- Rows that are not looked at. -/
  insertEdge : ∀ e, ∃ rows, answers (.insertEdge e) = .ok rows
  lockEdges : ∃ rows, answers .lockEdges = .ok rows
  notifyEnqueued : ∀ taskType, ∃ rows, answers (.notifyEnqueued taskType) = .ok rows

/-- Answers that are computed from rows. Other statements find nothing. -/
def mirror (s : State) (clock : Timestamp) : Answers
  | .typeName name => .ok ((s.findType? name).map (·.name)).toList
  | .typeByName name => .ok (s.findType? name).toList
  | .taskById id => .ok ((s.find? id).map TaskRow.ofTask).toList
  | .lockTask id => .ok ((s.find? id).map TaskRow.ofTask).toList
  | .lockStatus id => .ok ((s.find? id).map (·.status.name)).toList
  | .taskExists id => .ok [(s.find? id).isSome]
  | .insertTask t => .ok [insertedRow t]
  | .startTask id => .ok
    ((((s.find? id).filter (·.status = .claimed)).map (startedRow clock)).map TaskRow.ofTask).toList
  | .completeTask id => .ok
    ((((s.find? id).filter (·.status = .processing)).map (completedRow clock)).map
      TaskRow.ofTask).toList
  | .failTask id message next completed at_ => .ok
    ((s.find? id).map fun t => TaskRow.ofTask
      { t with
        status := .failed
        lastError := some message
        nextAttemptAt := next
        completedAt := completed
        updatedAt := at_ }).toList
  | .reaches start goal => .ok [(Dependency.prerequisitesOf s.edges start).any fun next =>
      Dependency.reaches s.edges next goal]
  | .upsertEdge task prerequisite => .ok [s.storedOr task prerequisite clock]
  | _ => .ok []

theorem mirrors_mirror (s : State) (clock : Timestamp) : Mirrors s clock (mirror s clock) where
  typeName _ := rfl
  typeByName _ := rfl
  taskById _ := rfl
  lockTask _ := rfl
  lockStatus _ := rfl
  taskExists _ := rfl
  insertTask _ := rfl
  startTask _ := rfl
  completeTask _ := rfl
  failTask _ _ _ _ _ := rfl
  reaches start goal := by
    refine ⟨_, rfl, ?_⟩
    rw [List.any_eq_true, Dependency.DependsOn, Relation.TransGen.head'_iff]
    simp only [Dependency.mem_prerequisitesOf, Dependency.reaches_iff]
  upsertEdge _ _ := rfl
  insertEdge _ := ⟨[], rfl⟩
  lockEdges := ⟨[], rfl⟩
  notifyEnqueued _ := ⟨[], rfl⟩

theorem toTask_ofTask (t : Task) : (TaskRow.ofTask t).toTask = .ok t := by
  simp [TaskRow.toTask, TaskRow.ofTask]

theorem toStatus_name (status : Status) : toStatus status.name = .ok status := by
  simp [toStatus]

variable {s : State} {clock : Timestamp} {answers : Answers} {w : World} {policy : Backoff.Policy}
  {id : Uuid}

/-! ### Creating tasks -/

theorem prepare_of_validate {spec checked : NewTask} (valid : spec.validate = .ok checked) :
    s.prepare spec = match s.findType? checked.taskType with
      | some _ => .ok checked
      | none => .error (.invalidTaskType checked.taskType) := by
  rw [State.prepare, valid]
  rfl

/-- A request is accepted as in memory; then its identifier is drawn. -/
theorem eval_insertTask (mirrors : Mirrors s clock answers) (spec : NewTask) (w : World) :
    answers.eval (insertTask spec) w = match s.prepare spec with
      | .error failure => (.error failure, w)
      | .ok checked => (.ok (Task.ofNew checked ((Host.freshId : Sim Uuid).run w).1 w.clock),
          ((Host.freshId : Sim Uuid).run w).2) := by
  rw [insertTask, Answers.eval_bind, Answers.eval_lift]
  cases valid : spec.validate with
  | error failure =>
    have refused : s.prepare spec = .error failure := by rw [State.prepare, valid]; rfl
    rw [refused]
  | ok checked =>
    rw [prepare_of_validate valid]
    refine (Answers.eval_optionalRow_bind (mirrors.typeName checked.taskType) _).trans ?_
    cases s.findType? checked.taskType with
    | none => rfl
    | some type =>
      -- the identifier and the time come from the host, the row from the database
      refine (Answers.eval_bind _ _ (ExceptT.lift (Host.freshId : Session Uuid)) _).trans ?_
      refine (Answers.eval_bind _ _ (ExceptT.lift (Host.now : Session Timestamp)) _).trans ?_
      refine (Answers.eval_oneRow_bind (mirrors.insertTask _) _).trans ?_
      refine (Answers.eval_lift _ _ _).trans ?_
      exact congrArg (·, _) (toTask_ofTask _)

/-- Checking requests while their rows are inserted comes to the same as checking them all first. -/
theorem eval_insertChain (mirrors : Mirrors s clock answers) (specs : List NewTask)
    (previous : Option Task) (w : World) :
    (answers.eval (insertChain previous specs) w).1 =
      (specs.mapM s.prepare).map fun checked => chainRows checked (drawnIds specs w) w.clock := by
  induction specs generalizing previous w with
  | nil => cases previous <;> rfl
  | cons spec rest ih =>
    rw [insertChain, Answers.eval_bind, eval_insertTask mirrors, List.mapM_cons, drawnIds_cons]
    cases s.prepare spec with
    | error failure => rfl
    | ok checked =>
      simp only
      generalize drawn : (Host.freshId : Sim Uuid).run w = d
      have same : d.2.clock = w.clock := by rw [← drawn]; rfl
      generalize built : Task.ofNew checked d.1 w.clock = t
      -- the edge to the task before, if there is one, is stored
      have goes : (answers.eval (insertChain (some t) rest >>= fun others => pure (t :: others))
          d.2).1 = ((rest.mapM s.prepare).map fun checked =>
            chainRows checked (drawnIds rest d.2) w.clock).map (t :: ·) := by
        rw [Answers.eval_map, ih, same]
      have rows : ((rest.mapM s.prepare).map fun checked =>
            chainRows checked (drawnIds rest d.2) w.clock).map (t :: ·) =
          (do
            let first ← (.ok checked : Outcome NewTask)
            let others ← rest.mapM s.prepare
            pure (first :: others) : Outcome (List NewTask)).map fun checked =>
              chainRows checked (d.1 :: drawnIds rest d.2) w.clock := by
        cases rest.mapM s.prepare with
        | error failure => rfl
        | ok others =>
          rw [← built]
          rfl
      rw [← rows, ← goes]
      cases previous with
      | none => rfl
      | some before =>
        obtain ⟨_, stored⟩ := mirrors.insertEdge ⟨t.id, before.id, t.createdAt⟩
        exact congrArg Prod.fst (Answers.eval_execute_bind stored _)

/-- The operations of several statements, run on the database. -/
theorem eval_enqueue (mirrors : Mirrors s clock answers) (spec : NewTask) (w : World) :
    (answers.eval (enqueue spec) w).1 =
      (s.prepare spec).map fun checked =>
        Task.ofNew checked ((Host.freshId : Sim Uuid).run w).1 w.clock := by
  refine (congrArg Prod.fst (Answers.eval_bind _ _ _ _)).trans ?_
  rw [Answers.eval_transaction, Answers.eval_bind, eval_insertTask mirrors]
  cases s.prepare spec with
  | error failure => rfl
  | ok checked =>
    simp only
    generalize built : Task.ofNew checked ((Host.freshId : Sim Uuid).run w).1 w.clock = t
    obtain ⟨_, announced⟩ := mirrors.notifyEnqueued t.taskType
    have told : ∀ w', answers.eval (announce t.taskType >>= fun _ => pure t) w' = (.ok t, w') :=
      fun w' => Answers.eval_execute_bind announced _
    rw [told]
    exact congrArg Except.ok built.symm

theorem eval_createChain (mirrors : Mirrors s clock answers) (specs : List NewTask) (w : World) :
    (answers.eval (createChain specs) w).1 =
      (specs.mapM s.prepare).map fun checked => chainRows checked (drawnIds specs w) w.clock := by
  unfold createChain
  cases specs with
  | nil => rfl
  | cons spec rest =>
    have chain := eval_insertChain mirrors (spec :: rest) none w
    rw [List.isEmpty_cons, if_neg Bool.false_ne_true, Answers.eval_transaction, Answers.eval_bind,
      ← chain]
    generalize answers.eval (insertChain none (spec :: rest)) w = result
    obtain ⟨outcome, w'⟩ := result
    cases outcome with
    | error failure => rfl
    | ok ts =>
      cases ts with
      | nil => rfl
      | cons head others =>
        obtain ⟨_, announced⟩ := mirrors.notifyEnqueued head.taskType
        exact congrArg Prod.fst (Answers.eval_execute_bind announced _)

/-! ### Transitions -/

theorem eval_recorded (transition : Transition) (t : Task) (w : World) :
    (answers.eval (recorded transition t) w).1 = .ok t := by
  refine (congrArg Prod.fst (Answers.eval_bind answers w (ExceptT.lift _) _)).trans ?_
  rw [Answers.eval_session]
  rfl

/-- A refusal looks at the row again. -/
theorem eval_rejected {α : Type} (mirrors : Mirrors s clock answers) (id : Uuid) (action : Action)
    (w : World) : answers.eval (rejected id action : Fallible α) w =
      (.error (.ofRejected id (s.find? id) action), w) := by
  have current : answers.eval (find id) w = (.ok (s.find? id), w) := by
    refine (Answers.eval_optionalRow_bind (mirrors.taskById id) _).trans ?_
    refine (Answers.eval_lift _ _ _).trans ?_
    cases s.find? id with
    | none => rfl
    | some t => exact congrArg (fun result => (result.map some, w)) (toTask_ofTask t)
  rw [rejected, Answers.eval_bind, current]
  rfl

/-- A guarded update returns the row that it matched, or refuses the row that it did not match. -/
theorem run_guardedUpdate (mirrors : Mirrors s clock answers) (id : Uuid) (transition : Transition)
    {update : Session (Except Trouble (Option TaskRow))} {written : Option Task} (w : World)
    (answered : (update.interpret answers.executor).run w = (.ok (written.map .ofTask), w)) :
    (((guardedUpdate id transition update).interpret answers.executor).run w).1 =
      s.returned id transition.action written := by
  have split := Session.interpret_andThen answers.executor update fun answer =>
    guardedUpdate id transition (Session.done answer)
  show ((Session.interpret answers.executor (update.andThen fun answer =>
    guardedUpdate id transition (Session.done answer))).run w).1 = _
  rw [split, run_bind, answered]
  cases written with
  | none => exact congrArg Prod.fst (eval_rejected mirrors id transition.action w)
  | some t =>
    exact (congrArg Prod.fst (Answers.eval_lift_bind (toTask_ofTask t) _)).trans
      (eval_recorded transition t w)

/-- Both storages start the same rows, each at its own clock. -/
theorem run_start (mirrors : Mirrors s clock answers) (id : Uuid) (now : Timestamp) (w : World) :
    (((start id).interpret answers.executor).run w).1 =
      ((Memory.Update.start id now).on s).1.map fun t => { t with updatedAt := clock } := by
  rw [Memory.Update.fst_start, State.map_returned, Option.map_map]
  exact run_guardedUpdate mirrors id .start w (Answers.run_optionalRow (mirrors.startTask id))

theorem run_complete (mirrors : Mirrors s clock answers) (id : Uuid) (now : Timestamp) (w : World) :
    (((complete id).interpret answers.executor).run w).1 =
      ((Memory.Update.complete id now).on s).1.map fun t =>
        { t with updatedAt := clock, completedAt := some clock } := by
  rw [Memory.Update.fst_complete, State.map_returned, Option.map_map]
  exact run_guardedUpdate mirrors id .complete w (Answers.run_optionalRow (mirrors.completeTask id))

/-- The row is looked up and checked as in memory, and written with the time of the host. -/
theorem eval_storeFailure (mirrors : Mirrors s clock answers) (id : Uuid) (message : String)
    (w : World) : answers.eval (storeFailure policy id message) w =
      (((Memory.Update.fail policy id message w.clock).on s).1.map .ofTask, w) := by
  rw [Memory.Update.fst_fail, storeFailure]
  refine (Answers.eval_optionalRow_bind (mirrors.lockTask id) _).trans ?_
  cases found : s.find? id with
  | none => rfl
  | some t =>
    refine (Answers.eval_lift_bind (a := some t)
      (congrArg (·.map some) (toTask_ofTask t)) _).trans ?_
    refine (Answers.eval_bind _ _ (lift (t.target? .fail)) _).trans ?_
    rw [Answers.eval_lift]
    simp only [Option.elim_some]
    cases t.target? .fail with
    | error failure => rfl
    | ok target =>
      refine (Answers.eval_optionalRow_bind (mirrors.typeByName t.taskType) _).trans ?_
      cases s.findType? t.taskType with
      | none => rfl
      | some type =>
        refine (Answers.eval_bind _ _ (ExceptT.lift (Host.now : Session Timestamp)) _).trans ?_
        refine Answers.eval_oneRow ?_
        rw [mirrors.failTask, found]
        rfl

theorem eval_fail (mirrors : Mirrors s clock answers) (id : Uuid) (message : String) (w : World) :
    (answers.eval (fail policy id message) w).1 =
      ((Memory.Update.fail policy id message w.clock).on s).1 := by
  rw [fail, Answers.eval_bind, Answers.eval_transaction, eval_storeFailure mirrors]
  cases ((Memory.Update.fail policy id message w.clock).on s).1 with
  | error failure => rfl
  | ok t =>
    exact (congrArg Prod.fst (Answers.eval_lift_bind (toTask_ofTask t) _)).trans
      (eval_recorded (.fail message) t w)

/-! ### Prerequisites -/

theorem eval_addDependency (mirrors : Mirrors s clock answers) (linked : s.Linked)
    (task prerequisite : Uuid) (now : Timestamp) (w : World) :
    (answers.eval (addDependency task prerequisite) w).1 =
      ((Memory.Update.addDependency task prerequisite now).on s).1.map fun e =>
        if e ∈ s.edges then e else { e with createdAt := clock } := by
  rw [Memory.Update.fst_addDependency linked, addDependency, Answers.eval_transaction,
    insertCheckedEdge]
  obtain ⟨_, locked⟩ := mirrors.lockEdges
  refine (congrArg Prod.fst (Answers.eval_execute_bind locked _)).trans ?_
  refine (congrArg Prod.fst (Answers.eval_optionalRow_bind (mirrors.lockStatus task) _)).trans ?_
  cases s.find? task with
  | none => rfl
  | some t =>
    refine (congrArg Prod.fst (Answers.eval_lift_bind (toStatus_name t.status) _)).trans ?_
    refine (congrArg Prod.fst
      (Answers.eval_oneRow_bind (mirrors.taskExists prerequisite) _)).trans ?_
    rw [Option.elim_some]
    cases s.find? prerequisite with
    | none => rfl
    | some _ =>
      by_cases pending : t.status = .pending
      · obtain ⟨reached, answer, reached_iff⟩ := mirrors.reaches prerequisite task
        have cycle_iff : Dependency.wouldCycle s.edges task prerequisite = true ↔
            task = prerequisite ∨ reached = true := by
          rw [Dependency.wouldCycle_iff, reached_iff, Relation.reflTransGen_iff_eq_or_transGen]
          rfl
        simp only [Option.isSome_some, Bool.not_true, Option.isNone_some, Bool.false_eq_true,
          if_false, ne_eq, pending, not_true_eq_false]
        by_cases same : task = prerequisite
        · rw [if_pos same, if_pos (cycle_iff.2 (.inl same))]
          rfl
        · rw [if_neg same]
          refine (congrArg Prod.fst (Answers.eval_oneRow_bind answer _)).trans ?_
          cases reached with
          | true =>
            rw [if_pos (cycle_iff.2 (.inr rfl))]
            rfl
          | false =>
            have open_ : ¬ Dependency.wouldCycle s.edges task prerequisite = true := by
              simp [cycle_iff, same]
            rw [if_neg open_]
            refine (congrArg Prod.fst (Answers.eval_oneRow
              (mirrors.upsertEdge task prerequisite))).trans ?_
            exact congrArg Except.ok (s.storedOr_eq task prerequisite now clock)
      · simp only [Option.isSome_some, Bool.not_true, Option.isNone_some, Bool.false_eq_true,
          if_false, ne_eq, pending, not_false_eq_true, if_true]
        rfl

/-! ### The two storages -/

/-- The operations on a database with given answers. -/
def answered (policy : Backoff.Policy) (answers : Answers) : Backend Sim :=
  (Database.backend policy).map fun session => session.interpret answers.executor

/-- What the operations of both storages return in one world, with its time and its supply of
identifiers: the same, but for instants that the database takes from its own clock. -/
structure StoresAgree (policy : Backoff.Policy) (answers : Answers) (clock : Timestamp)
    (w : World) : Prop where
  enqueue : ∀ spec, (((answered policy answers).enqueue spec).run w).1 =
    (((Memory.backend policy : Backend Sim).enqueue spec).run w).1
  createChain : ∀ specs, (((answered policy answers).createChain specs).run w).1 =
    (((Memory.backend policy : Backend Sim).createChain specs).run w).1
  start : ∀ id, (((answered policy answers).start id).run w).1 =
    (((Memory.backend policy : Backend Sim).start id).run w).1.map
      fun t => { t with updatedAt := clock }
  complete : ∀ id, (((answered policy answers).complete id).run w).1 =
    (((Memory.backend policy : Backend Sim).complete id).run w).1.map
      fun t => { t with updatedAt := clock, completedAt := some clock }
  fail : ∀ id message, (((answered policy answers).fail id message).run w).1 =
    (((Memory.backend policy : Backend Sim).fail id message).run w).1
  /-- An edge that is stored already keeps its creation instant. -/
  addDependency : ∀ task prerequisite,
    (((answered policy answers).addDependency task prerequisite).run w).1 =
      (((Memory.backend policy : Backend Sim).addDependency task prerequisite).run w).1.map
        fun e => if e ∈ w.memory.state.edges then e else { e with createdAt := clock }

/-- On reachable rows, a database that answers from them and the storage in memory agree. -/
theorem stores_agree {history : List Memory.Exchange} (run : Run policy {} history w.memory.state)
    (mirrors : Mirrors w.memory.state clock answers) : StoresAgree policy answers clock w where
  enqueue spec := (eval_enqueue mirrors spec w).trans (Memory.fst_run_enqueue spec w).symm
  createChain specs :=
    (eval_createChain mirrors specs w).trans (Memory.fst_run_createChain specs w).symm
  start id := by
    have inMemory := Memory.fst_run_performTransition .start (Memory.Update.start id) w
    exact (run_start mirrors id w.clock w).trans (congrArg _ inMemory.symm)
  complete id := by
    have inMemory := Memory.fst_run_performTransition .complete (Memory.Update.complete id) w
    exact (run_complete mirrors id w.clock w).trans (congrArg _ inMemory.symm)
  fail id message := by
    have inMemory := Memory.fst_run_performTransition (.fail message)
      (Memory.Update.fail policy id message) w
    exact (eval_fail mirrors id message w).trans inMemory.symm
  addDependency task prerequisite := by
    have inMemory := congrArg Prod.fst
      (Memory.run_perform (Memory.Update.addDependency task prerequisite) w)
    exact (eval_addDependency mirrors run.linked task prerequisite w.clock w).trans
      (congrArg _ inMemory.symm)

theorem stores_agree_of_chain : ∃ w : World, w.memory.state.edges ≠ [] ∧
    StoresAgree {} (mirror w.memory.state .latest) .latest w := by
  have run : Run {} {} (Memory.replay {} {} Memory.linkedCalls).1
      (Memory.replay {} {} Memory.linkedCalls).2 := Memory.run_replay (by decide +kernel)
  let w : World :=
    { storage := .memory
      policy := {}
      clock := .epoch
      memory := { state := (Memory.replay {} {} Memory.linkedCalls).2 } }
  exact ⟨w, by decide +kernel, stores_agree run (mirrors_mirror _ _)⟩

end WorkQueue.Database
