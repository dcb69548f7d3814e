import WorkQueue.Proofs.Database.Silence
import WorkQueue.Proofs.Memory.Logging

/-!
# Log entries of the storage in a database

Each transition that is stored is recorded afterwards, once: the log entries of an operation come
last, behind the answer that its statement or its transaction has succeeded, one for each task that
is returned. An operation that fails writes none.

## Main definitions

* `Database.Records`: log entries, one for each transition of a task
* `Operation.recorded`, `Operation.Stored`: what an operation has to record, and after which answer
* `Database.RecordsLast`: what is promised of the log entries of an operation

## Main statements

* `Database.records_last`: every operation keeps the promise
-/

namespace WorkQueue

open Database

/-- The transitions that an operation records, in order, with the rows that they left. -/
def Operation.recorded : (op : Operation) → Outcome op.Result → List (Transition × Task)
  | .claim .., .ok ts => (ts : List Task).map fun t => (.claim, t)
  | .complete _, .ok t => [(.complete, t)]
  | .fail _ message, .ok t => [(.fail message, t)]
  | .cancel _, .ok t => [(.cancel, t)]
  | _, _ => []

/-- The answer after which the transition of an operation is stored. -/
inductive Operation.Stored : Operation → Sent → Prop
  | claim (worker : String) (limit : Nat) (rows : List TaskRow) :
      Stored (.claim worker limit) (.asked ⟨.claimTasks worker limit, .ok rows⟩)
  | complete (id : Uuid) (row : TaskRow) (rows : List TaskRow) :
      Stored (.complete id) (.asked ⟨.completeTask id, .ok (row :: rows)⟩)
  | fail (id : Uuid) (message : String) : Stored (.fail id message) (.command .commit (.ok ()))
  | cancel (id : Uuid) (row : TaskRow) (rows : List TaskRow) :
      Stored (.cancel id) (.asked ⟨.cancelTask id, .ok (row :: rows)⟩)

namespace Database

open Session
open Memory (entryOf)

variable {α : Type} {sent : List Sent} {op : Operation} {result : Outcome op.Result}

/-- One log entry for each transition, in order, with any answers. -/
def Records (logs : List Sent) (transitions : List (Transition × Task)) : Prop :=
  List.Forall₂ (fun x m => ∃ entry answer, entryOf m.1 m.2 = some entry ∧
    x = .asked ⟨.insertLog entry, answer⟩) logs transitions

/-- What is promised of the log entries of an operation that has sent this and returned this. -/
structure RecordsLast (op : Operation) (sent : List Sent) (result : Outcome op.Result) : Prop where
  /-- They come last, one for each transition. -/
  last : ∃ before logs, sent = before ++ logs ∧ (∀ x ∈ before, x.isLog = false) ∧
    Records logs (op.recorded result) ∧
    (logs ≠ [] → ∃ first stored, before = first ++ [stored] ∧ op.Stored stored)

/-- Nothing is recorded. -/
theorem RecordsLast.of_plain (plain : ∀ x ∈ sent, x.isLog = false) (none : op.recorded result = []) :
    RecordsLast op sent result := by
  refine ⟨sent, [], (List.append_nil _).symm, plain, ?_, fun some => absurd rfl some⟩
  rw [none]
  exact .nil

theorem RecordsLast.of_silent {x : Session (Outcome op.Result)} (silent : x.Silent)
    (path : x.Path sent result) (none : op.recorded result = []) : RecordsLast op sent result :=
  .of_plain (silent.path path) none

/-- What is recorded comes after the answer that it is stored. -/
theorem RecordsLast.of_stored {first logs : List Sent} {x : Sent} (plain : ∀ y ∈ first, y.isLog = false)
    (stored : op.Stored x) (records : Records logs (op.recorded result)) :
    RecordsLast op (first ++ x :: logs) result := by
  have plain_x : x.isLog = false := by
    cases stored <;> rfl
  refine ⟨first ++ [x], logs, by simp, ?_, records, fun _ => ⟨first, x, rfl, stored⟩⟩
  intro y hy
  rcases List.mem_append.1 hy with hy | hy
  · exact plain y hy
  · rw [List.mem_singleton.1 hy]
    exact plain_x

theorem RecordsLast.of_first {logs : List Sent} {x : Sent} (stored : op.Stored x)
    (records : Records logs (op.recorded result)) : RecordsLast op (x :: logs) result :=
  @RecordsLast.of_stored op result [] logs x (List.forall_mem_nil _) stored records

/-! ### Recording -/

theorem records_recordTransition {transition : Transition} {t : Task} {u : Unit}
    (told : transition ≠ .start)
    (path : (recordTransition writeLog transition t : Session Unit).Path sent u) :
    Records sent [(transition, t)] := by
  have line : ∃ line, transition.logLine? t = some line := by
    cases transition with
    | start => exact absurd rfl told
    | claim | complete | fail | cancel => exact ⟨_, rfl⟩
  obtain ⟨line, written⟩ := line
  rw [recordTransition, written] at path
  obtain ⟨answer, rest, rfl, path⟩ := path
  -- the answer to the log entry is reported at most
  have quiet : rest = [] := by
    cases answer with
    | error trouble => exact path.1
    | ok rows => exact path.1
  rw [quiet]
  refine .cons ⟨_, answer, ?_, rfl⟩ .nil
  rw [entryOf, written]
  rfl

theorem records_recordClaims {ts : List Task} {u : Unit} (path : (recordClaims ts).Path sent u) :
    Records sent (ts.map fun t => (.claim, t)) := by
  induction ts generalizing sent with
  | nil =>
    obtain ⟨rfl, -⟩ := path
    exact .nil
  | cons t ts ih =>
    obtain ⟨first, _, rest, rfl, begun, continued⟩ :=
      Path.split (x := recordTransition writeLog .claim t) path
    exact List.rel_append (records_recordTransition (by simp) begun) (ih continued)

theorem path_recorded {transition : Transition} {t : Task} {result : Outcome Task}
    (told : transition ≠ .start) (path : (recorded transition t).run.Path sent result) :
    result = .ok t ∧ Records sent [(transition, t)] := by
  obtain ⟨first, _, rest, rfl, begun, rfl, rfl⟩ :=
    Path.split_lift (x := recordTransition writeLog transition t) path
  rw [List.append_nil]
  exact ⟨rfl, records_recordTransition told begun⟩

/-! ### Operations -/

/-- A row that a statement returned is read and recorded. -/
theorem path_readRecorded {transition : Transition} {row : TaskRow} {result : Outcome Task}
    (told : transition ≠ .start)
    (path : (lift row.toTask >>= recorded transition).run.Path sent result) :
    (∃ t, result = .ok t ∧ Records sent [(transition, t)]) ∨
      ∃ failure, result = .error failure ∧ sent = [] := by
  cases read : row.toTask with
  | error failure =>
    rw [read] at path
    obtain ⟨rfl, rfl⟩ := path
    exact .inr ⟨failure, rfl, rfl⟩
  | ok t =>
    rw [read] at path
    have path : (recorded transition t).run.Path sent result := path
    exact .inl ⟨t, path_recorded told path⟩

theorem claim_recordsLast {worker : String} {limit : Nat} {result : Outcome (List Task)}
    (path : (claim worker limit).Path sent result) :
    RecordsLast (.claim worker limit) sent result := by
  unfold claim at path
  split at path
  · obtain ⟨rfl, rfl⟩ := path
    exact .of_plain (by simp) rfl
  · obtain ⟨answer, rest, rfl, path⟩ := path
    cases answer with
    | error trouble =>
      obtain ⟨rfl, rfl⟩ := path
      exact .of_plain (by simp [Sent.isLog, Statement.isLog]) rfl
    | ok rows =>
      change List TaskRow at rows
      simp only [andThen] at path
      cases read : toTasks rows with
      | error failure =>
        rw [read] at path
        obtain ⟨rfl, rfl⟩ := path
        exact .of_plain (by simp [Sent.isLog, Statement.isLog]) rfl
      | ok ts =>
        rw [read] at path
        obtain ⟨logs, _, after, rfl, written, reported⟩ := Path.split (x := recordClaims ts) path
        -- claimed tasks are reported, and nothing more is sent
        have ended : after = [] ∧ result = .ok ts := by
          split at reported
          · exact reported
          · exact reported
        obtain ⟨rfl, rfl⟩ := ended
        rw [List.append_nil]
        exact .of_first (.claim worker limit rows) (records_recordClaims written)

theorem path_rejected {id : Uuid} {action : Action} {result : Outcome α}
    (path : (rejected id action : Fallible α).run.Path sent result) :
    ∃ failure, result = .error failure := by
  obtain ⟨first, outcome, rest, rfl, -, continued⟩ :=
    @Path.split _ _ (find id).run (ExceptT.bindCont _) _ _ path
  cases outcome with
  | error failure => exact ⟨failure, continued.2⟩
  | ok current => exact ⟨_, continued.2⟩

theorem complete_recordsLast {id : Uuid} {result : Outcome Task}
    (path : (complete id).Path sent result) : RecordsLast (.complete id) sent result := by
  obtain ⟨answer, rest, rfl, path⟩ := path
  cases answer with
  | error trouble =>
    obtain ⟨rfl, rfl⟩ := path
    exact .of_plain (by simp [Sent.isLog, Statement.isLog]) rfl
  | ok rows =>
    cases rows with
    | nil =>
      have path : (rejected id .complete : Fallible Task).run.Path rest result := path
      obtain ⟨failure, rfl⟩ := path_rejected path
      refine .of_plain ?_ rfl
      exact List.forall_mem_cons.2 ⟨rfl, (silent_rejected id .complete).path path⟩
    | cons row rows =>
      have path : (lift row.toTask >>= recorded .complete).run.Path rest result := path
      rcases path_readRecorded (by simp) path with ⟨t, rfl, records⟩ | ⟨failure, rfl, rfl⟩
      · exact .of_first (.complete id row rows) records
      · exact .of_plain (by simp [Sent.isLog, Statement.isLog]) rfl

theorem cancel_recordsLast {id : Uuid} {result : Outcome Task}
    (path : (cancel id).run.Path sent result) : RecordsLast (.cancel id) sent result := by
  obtain ⟨answer, rest, rfl, path⟩ := path
  cases answer with
  | error trouble =>
    obtain ⟨rfl, rfl⟩ := path
    exact .of_plain (by simp [Sent.isLog, Statement.isLog]) rfl
  | ok rows =>
    cases rows with
    | nil =>
      have path : (rejected id .cancel : Fallible Task).run.Path rest result := path
      obtain ⟨failure, rfl⟩ := path_rejected path
      refine .of_plain ?_ rfl
      exact List.forall_mem_cons.2 ⟨rfl, (silent_rejected id .cancel).path path⟩
    | cons row rows =>
      have path : (do
        let t ← lift row.toTask
        (Host.report .info source "Task cancelled"
          [("task_id", .shown (toString id)), ("task_type", .shown t.taskType)] : Session Unit)
        recorded .cancel t).run.Path rest result := path
      -- the report in between is not sent
      have path : (lift row.toTask >>= recorded .cancel).run.Path rest result := by
        cases read : row.toTask with
        | error failure =>
          rw [read] at path
          exact path
        | ok t =>
          rw [read] at path
          exact path
      rcases path_readRecorded (by simp) path with ⟨t, rfl, records⟩ | ⟨failure, rfl, rfl⟩
      · exact .of_first (.cancel id row rows) records
      · exact .of_plain (by simp [Sent.isLog, Statement.isLog]) rfl

/-- A transaction that succeeds ends with its commit. -/
theorem path_transaction {body : Fallible α} {result : Outcome α}
    (path : (transaction body).run.Path sent result) :
    (∃ failure, result = .error failure) ∨
      ∃ a first, result = .ok a ∧ sent = first ++ [.command .commit (.ok ())] := by
  obtain ⟨opened, rest, rfl, path⟩ := path
  cases opened with
  | error trouble => exact .inl ⟨_, path.2⟩
  | ok _ =>
    obtain ⟨first, outcome, rest, rfl, -, closing⟩ := Path.split_lift (x := body.run) path
    cases outcome with
    | error failure =>
      obtain ⟨answer, rest, rfl, rfl, rfl⟩ := closing
      exact .inl ⟨failure, rfl⟩
    | ok a =>
      obtain ⟨committed, rest, rfl, ended⟩ := closing
      cases committed with
      | error trouble => exact .inl ⟨_, ended.2⟩
      | ok _ =>
        obtain ⟨rfl, rfl⟩ := ended
        exact .inr ⟨a, .command .begin_ (.ok ()) :: first, rfl, rfl⟩

theorem fail_recordsLast {policy : Backoff.Policy} {id : Uuid} {message : String}
    {result : Outcome Task} (path : (fail policy id message).run.Path sent result) :
    RecordsLast (.fail id message) sent result := by
  obtain ⟨first, outcome, rest, rfl, inside, closing⟩ := @Path.split _ _
    (transaction (storeFailure policy id message)).run (ExceptT.bindCont _) _ _ path
  have plain := (silent_transaction (silent_storeFailure policy id message)).path inside
  rcases path_transaction inside with ⟨failure, rfl⟩ | ⟨row, first, rfl, rfl⟩
  · obtain ⟨rfl, rfl⟩ := closing
    rw [List.append_nil]
    exact .of_plain plain rfl
  · have closing : (lift row.toTask >>= recorded (.fail message)).run.Path rest result := closing
    rcases path_readRecorded (by simp) closing with ⟨t, rfl, records⟩ | ⟨failure, rfl, rfl⟩
    · rw [List.append_assoc]
      exact .of_stored (fun x hx => plain x (List.mem_append_left _ hx)) (.fail id message) records
    · rw [List.append_nil]
      exact .of_plain plain rfl

/-- Whatever the database answers, what an operation stores is recorded afterwards, once. -/
theorem records_last (policy : Backoff.Policy)
    (path : (op.run (backend policy)).Path sent result) : RecordsLast op sent result := by
  cases op with
  | claim worker limit => exact claim_recordsLast path
  | complete id => exact complete_recordsLast path
  | fail id message => exact fail_recordsLast path
  | cancel id => exact cancel_recordsLast path
  | _ => exact .of_silent (silent_operation policy _ rfl) path rfl

end Database

end WorkQueue
