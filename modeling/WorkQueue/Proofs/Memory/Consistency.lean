import WorkQueue.Proofs.Memory.Attempts
import WorkQueue.Proofs.Memory.Prerequisites

/-!
# Consistent rows

Each transition writes some of a row's bookkeeping fields and relies on the others. A new row is
consistent, and every transition that a consistent row admits leaves a consistent one, so in every
run the stamps, the counter and the texts of each row agree with its status.

## Main definitions

* `Task.Consistent`: the fields of a row agree with its status
* `Memory.RowsConsistent`: consistent rows of known types

## Main statements

* `Task.consistent_ofNew`, `Memory.Moves.consistent`: new rows, and rows after a transition
* `Memory.Run.consistent`, `Memory.Run.exists_type`: the rows of a run, and their types
* `Memory.rows_consistent`: both, and what cannot happen because of them
-/

namespace WorkQueue

/-- An accepted request names a type, keeps to the bounds, and has an object as payload. -/
theorem NewTask.of_validate {spec checked : NewTask} (h : spec.validate = .ok checked) :
    Text.isBlank checked.taskType = false ∧ checked.payload.isObject ∧
      0 ≤ checked.priority ∧ checked.priority ≤ 10 := by
  unfold NewTask.validate at h
  split at h
  · cases h
  · rename_i named
    have named : Text.isBlank spec.taskType = false := by simpa using named
    split at h
    · cases h
    · rename_i bounded
      have within : 0 ≤ spec.priority ∧ spec.priority ≤ 10 := by
        simpa [NewTask.minPriority, NewTask.maxPriority] using bounded
      split at h
      · cases h
        exact ⟨named, rfl, within⟩
      · rename_i members payload
        cases h
        exact ⟨named, by rw [payload]; rfl, within⟩
      · cases h

namespace Task

variable {t : Task}

/-- What a terminal row is, by its status. -/
theorem isTerminal_iff : t.isTerminal ↔
    t.status = .completed ∨ t.status = .cancelled ∨ t.status = .failed ∧ t.completedAt.isSome := by
  unfold isTerminal retriesExhausted Status.isAlwaysTerminal
  cases t.status <;> simp

/-- The fields of a row agree with its status. -/
structure Consistent (t : Task) : Prop where
  taskType : Text.isBlank t.taskType = false
  payload : t.payload.isObject
  priority : 0 ≤ t.priority ∧ t.priority ≤ 10
  attempts_nonneg : 0 ≤ t.attempts
  /-- Exactly the terminal rows are stamped as completed. -/
  completedAt_iff : t.completedAt.isSome ↔ t.isTerminal
  /-- Exactly the rows that wait for another attempt have a retry instant. -/
  nextAttemptAt_iff : t.nextAttemptAt.isSome ↔ t.status = .failed ∧ t.completedAt = none
  pending : t.status = .pending →
    t.attempts = 0 ∧ t.claimedBy = none ∧ t.lastError = none ∧ t.nextAttemptAt = none
  claimedBy : t.status ∈ Memory.pastClaim → t.claimedBy.isSome
  attempts_pos : t.status ∈ [.processing, .completed, .failed] → 1 ≤ t.attempts
  lastError : t.status = .failed → t.lastError.isSome
  /-- A claimed row keeps the error of the attempt before, if there was one. -/
  lastError_iff : t.status = .claimed → (t.lastError.isSome ↔ 1 ≤ t.attempts)

/-- A new row is consistent. -/
theorem consistent_ofNew {spec checked : NewTask} (h : spec.validate = .ok checked)
    (id : Uuid) (now : Timestamp) : (ofNew checked id now).Consistent := by
  obtain ⟨named, payload, within⟩ := NewTask.of_validate h
  constructor <;> simp [ofNew, isTerminal_iff, Memory.pastClaim, named, payload, within]

/-- An open row has no completion stamp. -/
theorem Consistent.completedAt_eq_none (h : t.Consistent) (open_ : t.isTerminal = false) :
    t.completedAt = none := by
  rw [← Option.not_isSome_iff_eq_none, h.completedAt_iff, open_]
  exact Bool.false_ne_true

/-- A row that is not failed has no retry instant. -/
theorem Consistent.nextAttemptAt_eq_none (h : t.Consistent) (other : t.status ≠ .failed) :
    t.nextAttemptAt = none := by
  rw [← Option.not_isSome_iff_eq_none, h.nextAttemptAt_iff]
  exact fun failed => other failed.1

/-- A failed row is terminal unless it waits for another attempt. -/
theorem Consistent.isTerminal_iff_of_failed (h : t.Consistent) (failed : t.status = .failed) :
    t.isTerminal ↔ t.nextAttemptAt = none := by
  rw [isTerminal_iff, ← Option.not_isSome_iff_eq_none, h.nextAttemptAt_iff,
    ← Option.isNone_iff_eq_none]
  cases t.completedAt <;> simp [failed]

end Task

namespace Memory

variable {policy : Backoff.Policy} {s : State} {history : List Exchange} {id : Uuid} {t t' : Task}
  {action : Action} {now : Timestamp}

/-! ### Transitions -/

/-- What failed is to be tried again, or has failed for good. -/
theorem isSome_retry_iff {type : TaskType} {attempts : Int} :
    (policy.failureSchedule type attempts now).1.isSome ↔
      (policy.failureSchedule type attempts now).2 = none := by
  unfold Backoff.Policy.failureSchedule
  split <;> simp

/-- A transition of a consistent row leaves a consistent row. -/
theorem Moves.consistent (move : Moves policy s t action t') (h : t.Consistent) :
    t'.Consistent := by
  have unstamped : t.completedAt = none := h.completedAt_eq_none move.isTerminal_eq_false
  cases move with
  | claim worker now claimable =>
    -- what the claim leaves of the attempt before: nothing, or its number and its error
    have before : t.lastError.isSome ↔ 1 ≤ t.attempts := by
      obtain ⟨_, _, ⟨pending, _⟩ | ⟨failed, _⟩, _⟩ := State.isClaimable_iff.1 claimable
      · obtain ⟨attempts, -, lastError, -⟩ := h.pending pending
        simp [attempts, lastError]
      · exact iff_of_true (h.lastError failed) (h.attempts_pos (by simp [failed]))
    constructor <;>
      simp [State.claimedRow, Task.isTerminal_iff, unstamped, before, h.taskType, h.payload,
        h.priority, h.attempts_nonneg]
  | start now claimed =>
    have waits : t.nextAttemptAt = none := h.nextAttemptAt_eq_none (by simp [claimed])
    have worker : t.claimedBy.isSome := h.claimedBy (by simp [claimed, pastClaim])
    have counted : 0 ≤ t.attempts + 1 ∧ 1 ≤ t.attempts + 1 := by
      have := h.attempts_nonneg
      omega
    constructor <;>
      simp [startedRow, Task.isTerminal_iff, unstamped, waits, worker, counted, h.taskType,
        h.payload, h.priority]
  | complete now processing =>
    have waits : t.nextAttemptAt = none := h.nextAttemptAt_eq_none (by simp [processing])
    have worker : t.claimedBy.isSome := h.claimedBy (by simp [processing, pastClaim])
    have counted : 1 ≤ t.attempts := h.attempts_pos (by simp [processing])
    constructor <;>
      simp [completedRow, Task.isTerminal_iff, waits, worker, counted, h.taskType, h.payload,
        h.priority, h.attempts_nonneg]
  | fail type message now processing known =>
    have worker : t.claimedBy.isSome := h.claimedBy (by simp [processing, pastClaim])
    have counted : 1 ≤ t.attempts := h.attempts_pos (by simp [processing])
    constructor <;>
      simp [failedRow, Task.isTerminal_iff, isSome_retry_iff, worker, counted, h.taskType,
        h.payload, h.priority, h.attempts_nonneg]
  | cancel now open_ =>
    constructor <;>
      simp [cancelledRow, Task.isTerminal_iff, pastClaim, h.taskType, h.payload, h.priority,
        h.attempts_nonneg]

/-! ### Runs -/

theorem validate_of_prepare {spec checked : NewTask} (h : s.prepare spec = .ok checked) :
    spec.validate = .ok checked := by
  unfold State.prepare at h
  cases valid : spec.validate with
  | error failure => simp [valid, bind, Except.bind] at h
  | ok spec' =>
    simp only [valid, bind, Except.bind] at h
    split at h
    · exact h
    · cases h

/-- The rows of every run are consistent. -/
theorem Run.consistent (run : Run policy {} history s) (found : s.find? id = some t) :
    t.Consistent := by
  refine run.rows (P := fun _ t => t.Consistent) ?_ ?_ ?_ found
  · intro history x t ih _
    exact ih
  · intro history s x spec checked id now _ accepted _ _
    exact Task.consistent_ofNew (validate_of_prepare accepted) id now
  · intro history s x t action t' _ _ ih _ move
    exact move.consistent ih

/-- The type of every stored task has been registered, and types are never forgotten. -/
theorem Run.exists_type (run : Run policy {} history s) (found : s.find? id = some t) :
    ∃ type, s.findType? t.taskType = some type := by
  have registered : registrations history t.taskType ≠ [] := by
    refine run.rows (P := fun history t => registrations history t.taskType ≠ []) ?_ ?_ ?_ found
    · intro history x t ih _
      simp [ih]
    · intro history s x spec checked id now run accepted _ _
      obtain ⟨type, known⟩ := findType?_of_prepare accepted
      have type_mem : type ∈ registrations history checked.taskType := run.mem_registrations known
      rw [registrations_concat]
      exact List.append_ne_nil_of_left_ne_nil (List.ne_nil_of_mem type_mem) _
    · intro history s x t action t' _ _ ih _ move
      simp [move.taskType_eq, ih]
  rw [run.findType?_eq]
  exact ⟨_, List.getLast?_eq_some_getLast registered⟩

/-! ### Branches that are never taken -/

/-- A failure is refused for an unknown type only if the task is stored and its type is not. -/
theorem Update.on_fail_eq_invalidTaskType {message text : String}
    (h : ((Update.fail policy id message now).on s).1 = .error (.invalidTaskType text)) :
    ∃ t, s.find? id = some t ∧ s.findType? t.taskType = none := by
  rw [fail, on_transition] at h
  cases found : s.find? id with
  | none => simp [found] at h
  | some t =>
    refine ⟨t, rfl, ?_⟩
    rw [← Option.not_isSome_iff_eq_none]
    intro known
    obtain ⟨type, known⟩ := Option.isSome_iff_exists.1 known
    cases status : t.status <;>
      simp [found, status, known, Action.sources, Task.target?, Task.refusal, Failure.ofRejected]
        at h

/-- What is promised of the rows after a history. -/
structure RowsConsistent (policy : Backoff.Policy) (s : State) : Prop where
  /-- The fields of every stored row agree with its status. -/
  consistent : ∀ t ∈ s.tasks, t.Consistent
  /-- The type of every stored task is known, so the test for it never decides about a claim. -/
  known : ∀ t ∈ s.tasks, ∃ type, s.findType? t.taskType = some type ∧
    ∀ now, s.isClaimable now t =
      (t.isDue now type.maxAttempts && !t.retriesExhausted && s.isSatisfied t.id)
  /-- A failure is never refused for an unknown type. -/
  fail_ne : ∀ id message now text,
    ((Update.fail policy id message now).on s).1 ≠ .error (.invalidTaskType text)

/-- In every run, rows are consistent and their types known. -/
theorem rows_consistent (run : Run policy {} history s) : RowsConsistent policy s where
  consistent t ht := run.consistent ((State.find?_eq_some_iff (run.keyed keyed_empty)).2 ⟨ht, rfl⟩)
  known t ht := by
    have found : s.find? t.id = some t :=
      (State.find?_eq_some_iff (run.keyed keyed_empty)).2 ⟨ht, rfl⟩
    obtain ⟨type, known⟩ := run.exists_type found
    exact ⟨type, known, fun now => by simp [State.isClaimable, known]⟩
  fail_ne id message now text h := by
    obtain ⟨t, found, unknown⟩ := Update.on_fail_eq_invalidTaskType h
    obtain ⟨type, known⟩ := run.exists_type found
    simp [unknown] at known

/-- Five tasks of two attempts: one is cancelled and one completed, one waits for its second attempt
and one is claimed for it, and the last one is new. -/
def variedCalls : List Call :=
  .upsertType ⟨"mail", 2, 5, none⟩ .epoch ::
    (([⟨1⟩, ⟨2⟩, ⟨3⟩, ⟨4⟩] : List Uuid).flatMap fun id =>
      [.enqueue { taskType := "mail", payload := .null } id .epoch, .claim "a" 1 .epoch]) ++
    [.cancel ⟨1⟩ .epoch, .start ⟨2⟩ .epoch, .complete ⟨2⟩ .epoch, .start ⟨4⟩ .epoch,
      .fail ⟨4⟩ "refused" .epoch, .claim "b" 1 .latest, .start ⟨3⟩ .latest,
      .fail ⟨3⟩ "refused" .latest,
      .enqueue { taskType := "mail", payload := .object [] } ⟨5⟩ .latest]

theorem rows_consistent_of_varied : ∃ history s, Run {} {} history s ∧
    s.tasks.map (·.status) = [.cancelled, .completed, .failed, .claimed, .pending] ∧
    s.tasks.map (·.attempts) = [0, 1, 1, 1, 0] ∧ RowsConsistent {} s := by
  have run : Run {} {} (replay {} {} variedCalls).1 (replay {} {} variedCalls).2 :=
    run_replay (by decide +kernel)
  exact ⟨_, _, run, by decide +kernel, by decide +kernel, rows_consistent run⟩

end Memory

end WorkQueue
