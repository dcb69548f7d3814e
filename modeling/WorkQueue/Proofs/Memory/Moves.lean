import WorkQueue.Proofs.Memory.Rows
import WorkQueue.Proofs.Memory.Updates

/-!
# Transitions of rows

What each transition asks of a stored row and what it makes of it. `Moves` gathers the five
transitions into one relation between a row, an action and the next row; the operations of the
storage are shown to follow it.

## Main definitions

* `Memory.State.Completed`: a task is stored and completed
* `Memory.startedRow`, `completedRow`, `failedRow`, `cancelledRow`: what a transition writes
* `Memory.Moves`: the transitions that a row admits

## Main statements

* `Memory.State.isClaimable_iff`: when a row may be claimed
* `Memory.Update.on_start_eq_ok_iff` and its companions: when a transition succeeds, and its result
-/

namespace WorkQueue.Memory

variable {policy : Backoff.Policy} {s s' : State} {t t' : Task} {id : Uuid} {now : Timestamp}
  {action : Action}

/-! ### Claimable rows -/

namespace State

/-- The task is stored and has been completed. -/
def Completed (s : State) (id : Uuid) : Prop := ∃ t, s.find? id = some t ∧ t.status = .completed

theorem isSatisfied_iff : s.isSatisfied id ↔
    ∀ e ∈ s.edges, e.task = id → s.Completed e.prerequisite := by
  have released : ∀ p, ((s.find? p).any fun t => t.status.releasesDependents) = true ↔
      s.Completed p := by
    intro p
    unfold Completed
    cases s.find? p with
    | none => simp
    | some t => cases h : t.status <;> simp [Status.releasesDependents, h]
  simp [isSatisfied, Dependency.prerequisitesOf, released, imp_iff_not_or]

/-- A claimable row is pending and its schedule is reached, or it failed, has attempts left and its
retry instant is reached; its type is known and its prerequisites are completed. -/
theorem isClaimable_iff : s.isClaimable now t ↔ ∃ type, s.findType? t.taskType = some type ∧
    (t.status = .pending ∧ t.scheduledFor ≤ now ∨
      t.status = .failed ∧ t.completedAt = none ∧ t.attempts < type.maxAttempts ∧
        ∃ retry, t.nextAttemptAt = some retry ∧ retry ≤ now) ∧
    ∀ e ∈ s.edges, e.task = t.id → s.Completed e.prerequisite := by
  rw [← isSatisfied_iff]
  unfold isClaimable
  cases s.findType? t.taskType with
  | none => simp
  | some type =>
    cases h : t.status <;>
      simp [Task.isDue, Task.retriesExhausted, h, Option.any_eq_true]
    grind

/-- The order of the rows does not matter to what may be claimed. -/
theorem isClaimable_visiting (hs : s.Keyed) {order : List Task} (perm : order.Perm s.tasks) :
    (s.visiting order).isClaimable now t = s.isClaimable now t := by
  simp only [isClaimable, isSatisfied, find?_visiting hs perm, findType?, visiting_types,
    visiting_edges]

end State

/-! ### What transitions write -/

/-- The row of a task after it has been started. -/
def startedRow (now : Timestamp) (t : Task) : Task :=
  { t with status := .processing, updatedAt := now, attempts := t.attempts + 1 }

/-- The row of a task after it has been completed. -/
def completedRow (now : Timestamp) (t : Task) : Task :=
  { t with status := .completed, updatedAt := now, completedAt := some now }

/-- The row of a task after it has failed, under the policies of the queue and of its type. -/
def failedRow (policy : Backoff.Policy) (type : TaskType) (message : String) (now : Timestamp)
    (t : Task) : Task :=
  { t with
    status := .failed
    updatedAt := now
    lastError := some message
    nextAttemptAt := (policy.failureSchedule type t.attempts now).1
    completedAt := (policy.failureSchedule type t.attempts now).2 }

/-- The row of a task after it has been cancelled. -/
def cancelledRow (now : Timestamp) (t : Task) : Task :=
  { t with
    status := .cancelled
    updatedAt := now
    nextAttemptAt := none
    completedAt := some now }

/-- One transition of a row: the row before, the action, and the row after. -/
inductive Moves (policy : Backoff.Policy) (s : State) : Task → Action → Task → Prop where
  | claim {t : Task} (worker : String) (now : Timestamp) (claimable : s.isClaimable now t) :
      Moves policy s t .claim (State.claimedRow worker now t)
  | start {t : Task} (now : Timestamp) (claimed : t.status = .claimed) :
      Moves policy s t .start (startedRow now t)
  | complete {t : Task} (now : Timestamp) (processing : t.status = .processing) :
      Moves policy s t .complete (completedRow now t)
  | fail {t : Task} (type : TaskType) (message : String) (now : Timestamp)
      (processing : t.status = .processing) (known : s.findType? t.taskType = some type) :
      Moves policy s t .fail (failedRow policy type message now t)
  | cancel {t : Task} (now : Timestamp) (open_ : t.isTerminal = false) :
      Moves policy s t .cancel (cancelledRow now t)

/-- The status to which an action leads. -/
def target : Action → Status
  | .claim => .claimed
  | .start => .processing
  | .complete => .completed
  | .fail => .failed
  | .cancel => .cancelled

namespace Moves

theorem status_eq (h : Moves policy s t action t') : t'.status = target action := by
  cases h <;> rfl

theorem id_eq (h : Moves policy s t action t') : t'.id = t.id := by
  cases h <;> rfl

theorem taskType_eq (h : Moves policy s t action t') : t'.taskType = t.taskType := by
  cases h <;> rfl

/-- A terminal row admits no transition. -/
theorem isTerminal_eq_false (h : Moves policy s t action t') : t.isTerminal = false := by
  cases h with
  | claim worker now claimable =>
    obtain ⟨_, _, ⟨pending, _⟩ | ⟨failed, unstamped, _⟩, _⟩ := State.isClaimable_iff.1 claimable
    · simp [Task.isTerminal, Task.retriesExhausted, Status.isAlwaysTerminal, pending]
    · simp [Task.isTerminal, Task.retriesExhausted, Status.isAlwaysTerminal, failed, unstamped]
  | start now claimed =>
    simp [Task.isTerminal, Task.retriesExhausted, Status.isAlwaysTerminal, claimed]
  | complete now processing =>
    simp [Task.isTerminal, Task.retriesExhausted, Status.isAlwaysTerminal, processing]
  | fail type message now processing known =>
    simp [Task.isTerminal, Task.retriesExhausted, Status.isAlwaysTerminal, processing]
  | cancel now open_ => exact open_

theorem not_isTerminal (h : Moves policy s t action t') : ¬ t.isTerminal := by
  rw [h.isTerminal_eq_false]
  exact Bool.false_ne_true

/-- Only the rows under look-up matter to which transitions are admitted. -/
theorem of_visiting (hs : s.Keyed) {order : List Task} (perm : order.Perm s.tasks)
    (h : Moves policy (s.visiting order) t action t') : Moves policy s t action t' := by
  cases h with
  | claim worker now claimable =>
    rw [State.isClaimable_visiting hs perm] at claimable
    exact .claim worker now claimable
  | start now claimed => exact .start now claimed
  | complete now processing => exact .complete now processing
  | fail type message now processing known => exact .fail type message now processing known
  | cancel now open_ => exact .cancel now open_

end Moves

/-! ### Transitions by identifier -/

namespace Update

/-- A transition succeeds on a stored task if its status is a source of the action, the lifecycle
has a target, and the fields can be filled in; then that row replaces the old one. -/
theorem on_transition_eq_ok_iff {fill : State → Task → Outcome Task} :
    (transition id action now fill).on s = (.ok t', s') ↔ ∃ t target, s.find? id = some t ∧
      t.status ∈ action.sources ∧ t.target? action = .ok target ∧
      fill s { t with status := target, updatedAt := now } = .ok t' ∧ s' = s.put t' := by
  rw [on_transition]
  cases s.find? id with
  | none => simp
  | some t =>
    by_cases source : t.status ∈ action.sources
    · cases target : t.target? action with
      | error failure => simp [source, target]
      | ok status =>
        cases filled : fill s { t with status := status, updatedAt := now } with
        | error failure => simp [source, target, filled]
        | ok row =>
          simp only [source, target, filled, if_true, Prod.mk.injEq, Except.ok.injEq,
            Option.some.injEq, exists_and_left, exists_eq_left', true_and]
          grind
    · simp [source]

theorem on_start_eq_ok_iff : (start id now).on s = (.ok t', s') ↔
    ∃ t, s.find? id = some t ∧ t.status = .claimed ∧ t' = startedRow now t ∧ s' = s.put t' := by
  rw [start, on_transition_eq_ok_iff]
  constructor
  · rintro ⟨t, target, found, source, target_eq, updated, rfl⟩
    have claimed : t.status = .claimed := by simpa [Action.sources] using source
    simp only [Task.target?, claimed, Except.ok.injEq] at target_eq
    subst target_eq
    exact ⟨t, found, claimed, (Except.ok.inj updated).symm, rfl⟩
  · rintro ⟨t, found, claimed, rfl, rfl⟩
    exact ⟨t, .processing, found, by simp [Action.sources, claimed],
      by simp [Task.target?, claimed], rfl, rfl⟩

theorem on_complete_eq_ok_iff : (complete id now).on s = (.ok t', s') ↔
    ∃ t, s.find? id = some t ∧ t.status = .processing ∧ t' = completedRow now t ∧
      s' = s.put t' := by
  rw [complete, on_transition_eq_ok_iff]
  constructor
  · rintro ⟨t, target, found, source, target_eq, updated, rfl⟩
    have processing : t.status = .processing := by simpa [Action.sources] using source
    simp only [Task.target?, processing, Except.ok.injEq] at target_eq
    subst target_eq
    exact ⟨t, found, processing, (Except.ok.inj updated).symm, rfl⟩
  · rintro ⟨t, found, processing, rfl, rfl⟩
    exact ⟨t, .completed, found, by simp [Action.sources, processing],
      by simp [Task.target?, processing], rfl, rfl⟩

theorem on_fail_eq_ok_iff {message : String} :
    (fail policy id message now).on s = (.ok t', s') ↔
      ∃ t type, s.find? id = some t ∧ t.status = .processing ∧
        s.findType? t.taskType = some type ∧ t' = failedRow policy type message now t ∧
        s' = s.put t' := by
  rw [fail, on_transition_eq_ok_iff]
  constructor
  · rintro ⟨t, target, found, source, target_eq, updated, rfl⟩
    have processing : t.status = .processing := by simpa [Action.sources] using source
    simp only [Task.target?, processing, Except.ok.injEq] at target_eq
    subst target_eq
    cases known : s.findType? t.taskType with
    | none => simp [known] at updated
    | some type =>
      simp only [known] at updated
      exact ⟨t, type, found, processing, known, (Except.ok.inj updated).symm, rfl⟩
  · rintro ⟨t, type, found, processing, known, rfl, rfl⟩
    exact ⟨t, .failed, found, by simp [Action.sources, processing],
      by simp [Task.target?, processing], by simp [known, failedRow], rfl⟩

theorem on_cancel_eq_ok_iff : (cancel id now).on s = (.ok t', s') ↔
    ∃ t, s.find? id = some t ∧ t.isTerminal = false ∧ t' = cancelledRow now t ∧
      s' = s.put t' := by
  have admitted : ∀ (t : Task) (target : Status), t.status ∈ Action.cancel.sources ∧
      t.target? .cancel = .ok target ↔ t.isTerminal = false ∧ target = .cancelled := by
    intro t target
    cases h : t.status <;> cases stamp : t.completedAt <;>
      simp [Action.sources, Task.target?, Task.isTerminal, Task.retriesExhausted,
        Status.isAlwaysTerminal, h, stamp, eq_comm]
  rw [cancel, on_transition_eq_ok_iff]
  constructor
  · rintro ⟨t, target, found, source, target_eq, updated, rfl⟩
    obtain ⟨open_, rfl⟩ := (admitted t target).1 ⟨source, target_eq⟩
    exact ⟨t, found, open_, (Except.ok.inj updated).symm, rfl⟩
  · rintro ⟨t, found, open_, rfl, rfl⟩
    obtain ⟨source, target_eq⟩ := (admitted t .cancelled).2 ⟨open_, rfl⟩
    exact ⟨t, .cancelled, found, source, target_eq, rfl, rfl⟩

end Update

/-! ### Claims -/

namespace State

variable {worker : String} {limit : Nat}

/-- A claim takes stored, claimable rows. -/
theorem mem_candidates (h : t ∈ s.candidates limit now) : t ∈ s.tasks ∧ s.isClaimable now t := by
  have sorted := List.mem_of_mem_take h
  rw [Task.sortForClaim, List.mem_mergeSort] at sorted
  exact List.mem_filter.1 sorted

/-- A claim takes no row twice. -/
theorem nodup_candidates (hs : s.Keyed) : ((s.candidates limit now).map (·.id)).Nodup := by
  have sorted : (Task.sortForClaim (s.tasks.filter (s.isClaimable now))).Perm
      (s.tasks.filter (s.isClaimable now)) := List.mergeSort_perm _ _
  have filtered : ((s.tasks.filter (s.isClaimable now)).map (·.id)).Nodup :=
    hs.sublist (List.filter_sublist.map _)
  exact ((sorted.map _).nodup_iff.2 filtered).sublist ((List.take_sublist _ _).map _)

theorem claim_fst : (s.claim worker limit now).1 =
    (s.candidates limit now).map (claimedRow worker now) := rfl

theorem claim_snd : (s.claim worker limit now).2 =
    (s.claim worker limit now).1.foldl put s := rfl

theorem ids_claim : (s.claim worker limit now).1.map (·.id) =
    (s.candidates limit now).map (·.id) := by
  rw [claim_fst, List.map_map]
  rfl

/-- A claimed row is the stored row of its task, claimed. -/
theorem mem_claim (hs : s.Keyed) (h : t' ∈ (s.claim worker limit now).1) :
    ∃ t, s.find? t'.id = some t ∧ s.isClaimable now t ∧ t' = claimedRow worker now t := by
  rw [claim_fst] at h
  obtain ⟨t, ht, rfl⟩ := List.mem_map.1 h
  obtain ⟨stored, claimable⟩ := mem_candidates ht
  exact ⟨t, (find?_eq_some_iff hs).2 ⟨stored, rfl⟩, claimable, rfl⟩

end State

end WorkQueue.Memory
