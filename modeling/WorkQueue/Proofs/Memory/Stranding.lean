import WorkQueue.Proofs.Memory.Consistency

/-!
# Stranded tasks

A failure decides once, by the ceiling known then, whether another attempt follows. Every later claim
looks at the ceiling known at its own time. When the ceiling has come down to the attempts in
between, the two disagree: the task is still to be tried again, and no claim will ever take it. This
is the only way for a task to be stranded.

## Main definitions

* `Memory.State.Attended`: a task that is closed, held, or due sooner or later
* `Memory.State.Stranded`: a task that no claim will take, although nothing is in its way
* `Memory.Decided`: what a failure decided by the ceiling known then
* `Memory.CeilingLowered`: the ceiling of a type has come down to the attempts of a failed task

## Main statements

* `Memory.Run.decided`: the failure of a failed row decided about another attempt
* `Memory.stranded_iff`: tasks are stranded by lowered ceilings and by nothing else
* `Memory.stranded_of_lowered`: a run that strands a task
-/

namespace WorkQueue.Memory

variable {policy : Backoff.Policy} {s : State} {history : List Exchange} {id : Uuid} {t : Task}
  {type : TaskType} {retry now : Timestamp}

namespace State

/-- The task is terminal, pending or held by a worker, or it failed and is due from its retry instant
on, under the ceiling of its type as it is known now. -/
def Attended (s : State) (t : Task) : Prop :=
  t.isTerminal ∨ t.status = .pending ∨ t.status = .claimed ∨ t.status = .processing ∨
    t.status = .failed ∧ ∃ type retry, s.findType? t.taskType = some type ∧
      t.nextAttemptAt = some retry ∧ ∀ now, retry ≤ now → t.isDue now type.maxAttempts

/-- The task is to be tried again and its prerequisites are completed, but no claim takes it. -/
structure Stranded (s : State) (t : Task) : Prop where
  failed : t.status = .failed
  unstamped : t.completedAt = none
  satisfied : s.isSatisfied t.id
  unclaimable : ∀ now, s.isClaimable now t = false

theorem attended_iff_of_failed (failed : t.status = .failed) (unstamped : t.completedAt = none)
    (known : s.findType? t.taskType = some type) (waits : t.nextAttemptAt = some retry) :
    s.Attended t ↔ t.attempts < type.maxAttempts := by
  constructor
  · rintro (terminal | pending | claimed | processing | ⟨-, type', retry', known', waits', due⟩)
    · simp [Task.isTerminal_iff, failed, unstamped] at terminal
    · simp [failed] at pending
    · simp [failed] at claimed
    · simp [failed] at processing
    · obtain rfl := Option.some.inj (known.symm.trans known')
      obtain rfl := Option.some.inj (waits.symm.trans waits')
      have due := due retry (Timestamp.le_refl retry)
      simp only [Task.isDue, failed, Bool.and_eq_true, decide_eq_true_eq] at due
      exact due.1
  · intro left
    refine .inr (.inr (.inr (.inr ⟨failed, type, retry, known, waits, fun now reached => ?_⟩)))
    simp [Task.isDue, failed, waits, left, reached]

theorem unclaimable_iff_of_failed (failed : t.status = .failed) (unstamped : t.completedAt = none)
    (known : s.findType? t.taskType = some type) (waits : t.nextAttemptAt = some retry)
    (satisfied : s.isSatisfied t.id) :
    (∀ now, s.isClaimable now t = false) ↔ type.maxAttempts ≤ t.attempts := by
  have claimable : ∀ now, s.isClaimable now t ↔ t.attempts < type.maxAttempts ∧ retry ≤ now := by
    intro now
    simp [isClaimable, known, Task.isDue, Task.retriesExhausted, failed, unstamped, waits, satisfied]
  constructor
  · intro never
    by_contra left
    have taken := (claimable retry).2 ⟨Int.not_le.1 left, Timestamp.le_refl retry⟩
    rw [never retry] at taken
    cases taken
  · intro lowered now
    rw [← Bool.not_eq_true, claimable]
    omega

end State

/-! ### What a failure decided -/

/-- A failure left the row. It asked for another attempt if and only if the ceiling was above the
attempts at that time. -/
def Decided (history : List Exchange) (t : Task) : Prop :=
  ∃ earlier message now later type,
    history = earlier ++ ⟨.fail t.id message now, .task t⟩ :: later ∧
    (registrations earlier t.taskType).getLast? = some type ∧
    (t.completedAt = none ↔ t.attempts < type.maxAttempts)

theorem Run.decided (run : Run policy {} history s) (found : s.find? id = some t)
    (failed : t.status = .failed) : Decided history t := by
  refine run.rows (P := fun history t => t.status = .failed → Decided history t) ?_ ?_ ?_ found
    failed
  · intro history x t ih _ failed
    obtain ⟨earlier, message, now, later, type, rfl, rest⟩ := ih failed
    exact ⟨earlier, message, now, later ++ [x], type, by simp, rest⟩
  · intro history s x spec checked id now _ _ _ _ failed
    cases failed
  · intro history s x t action t' run _ _ one move failed
    have action_eq : target action = .failed := move.status_eq ▸ failed
    cases move with
    | fail type message now processing known =>
      obtain ⟨subject, reply⟩ :=
        subject_of_mem_moves (one ▸ List.mem_singleton_self _) (by decide)
      obtain ⟨call, _⟩ := x
      subst reply
      cases call with
      | fail id' message' now' =>
        obtain rfl : id' = t.id := by simpa [Call.subject?] using subject
        refine ⟨history, message', now', [], type, rfl, run.findType?_eq ▸ known, ?_⟩
        rw [← Option.not_isSome_iff_eq_none, completedAt_failedRow]
        exact Int.not_le
      | _ => simp [Call.subject?] at subject
    | claim | start | complete | cancel => cases action_eq

/-- The task failed with an attempt left, and the type registered last since then allows no more
attempts than it had. -/
def CeilingLowered (history : List Exchange) (t : Task) : Prop :=
  t.status = .failed ∧ t.completedAt = none ∧ ∃ earlier message now later type,
    history = earlier ++ ⟨.fail t.id message now, .task t⟩ :: later ∧
    (registrations later t.taskType).getLast? = some type ∧ type.maxAttempts ≤ t.attempts

/-- A ceiling at the attempts of an open failed row was lowered after the failure. -/
theorem Run.ceilingLowered_iff (run : Run policy {} history s) (found : s.find? id = some t)
    (failed : t.status = .failed) (unstamped : t.completedAt = none)
    (known : s.findType? t.taskType = some type) :
    CeilingLowered history t ↔ type.maxAttempts ≤ t.attempts := by
  rw [run.findType?_eq] at known
  constructor
  · rintro ⟨-, -, earlier, message, now, later, last, rfl, registered, reached⟩
    rw [registrations_append, registrations_cons, List.getLast?_append, List.getLast?_append,
      registered] at known
    obtain rfl := Option.some.inj known
    exact reached
  · intro reached
    obtain ⟨earlier, message, now, later, before, rfl, registered, decided⟩ :=
      run.decided found failed
    refine ⟨failed, unstamped, earlier, message, now, later, type, rfl, ?_, reached⟩
    rw [registrations_append, registrations_cons, List.getLast?_append, List.getLast?_append] at known
    cases since : (registrations later t.taskType).getLast? with
    | some last => simpa [since] using known
    | none =>
      -- the failure would have been decided by the same ceiling
      have same : before = type := by simpa [since, registered, Exchange.registered] using known
      have left := decided.1 unstamped
      rw [same] at left
      omega

/-- In every run, exactly the tasks whose ceiling was lowered after their last failure are not
attended. They are stranded as soon as their prerequisites are completed. -/
theorem stranded_iff (run : Run policy {} history s) (found : s.find? id = some t) :
    (¬ s.Attended t ↔ CeilingLowered history t) ∧
      (s.Stranded t ↔ CeilingLowered history t ∧ s.isSatisfied t.id) := by
  by_cases waiting : t.status = .failed ∧ t.completedAt = none
  · obtain ⟨failed, unstamped⟩ := waiting
    obtain ⟨type, known⟩ := run.exists_type found
    obtain ⟨retry, waits⟩ := Option.isSome_iff_exists.1
      ((run.consistent found).nextAttemptAt_iff.2 ⟨failed, unstamped⟩)
    rw [State.attended_iff_of_failed failed unstamped known waits,
      run.ceilingLowered_iff found failed unstamped known]
    refine ⟨Int.not_lt, fun stranded => ⟨?_, stranded.satisfied⟩, ?_⟩
    · exact (State.unclaimable_iff_of_failed failed unstamped known waits stranded.satisfied).1
        stranded.unclaimable
    · rintro ⟨reached, satisfied⟩
      exact ⟨failed, unstamped, satisfied,
        (State.unclaimable_iff_of_failed failed unstamped known waits satisfied).2 reached⟩
  · -- all other rows are attended by their status alone
    have attended : s.Attended t := by
      unfold State.Attended
      rw [Task.isTerminal_iff]
      cases status : t.status with
      | failed =>
        have stamped : t.completedAt.isSome :=
          Option.isSome_iff_ne_none.2 (by simpa [status] using waiting)
        simp [stamped]
      | pending | claimed | processing | completed | cancelled => simp
    have never : ¬ CeilingLowered history t := fun lowered => waiting ⟨lowered.1, lowered.2.1⟩
    refine ⟨iff_of_false (not_not_intro attended) never, iff_of_false ?_ fun both => never both.1⟩
    intro stranded
    exact waiting ⟨stranded.failed, stranded.unstamped⟩

/-- The first of three attempts fails, and then the type allows one attempt only. -/
def loweredCalls : List Call :=
  [.upsertType ⟨"mail", 3, 0, none⟩ .epoch,
    .enqueue { taskType := "mail", payload := .null } ⟨1⟩ .epoch,
    .claim "a" 5 .epoch, .start ⟨1⟩ .epoch, .fail ⟨1⟩ "refused" .epoch,
    .upsertType ⟨"mail", 1, 0, none⟩ .epoch]

/-- In the end the type allows three attempts again. -/
def raisedCalls : List Call := loweredCalls ++ [.upsertType ⟨"mail", 3, 0, none⟩ .epoch]

theorem stranded_iff_of_raised : ∃ history s t, Run {} {} history s ∧ s.find? ⟨1⟩ = some t ∧
    t.status = .failed ∧ (registrations history "mail").map (·.maxAttempts) = [3, 1, 3] ∧
    (¬ s.Attended t ↔ CeilingLowered history t) ∧
    (s.Stranded t ↔ CeilingLowered history t ∧ s.isSatisfied t.id) := by
  have run : Run {} {} (replay {} {} raisedCalls).1 (replay {} {} raisedCalls).2 :=
    run_replay (by decide +kernel)
  have stored : ((replay {} {} raisedCalls).2.find? ⟨1⟩).any fun t => t.status = .failed := by
    decide +kernel
  obtain ⟨t, found, failed⟩ := (Option.any_eq_true _ _).1 stored
  exact ⟨_, _, t, run, found, of_decide_eq_true failed, by decide +kernel, stranded_iff run found⟩

theorem stranded_of_lowered : ∃ t, Run {} {} (replay {} {} loweredCalls).1
      (replay {} {} loweredCalls).2 ∧ (replay {} {} loweredCalls).2.find? ⟨1⟩ = some t ∧
    ¬ (replay {} {} loweredCalls).2.Attended t ∧ (replay {} {} loweredCalls).2.Stranded t := by
  have run : Run {} {} (replay {} {} loweredCalls).1 (replay {} {} loweredCalls).2 :=
    run_replay (by decide +kernel)
  have stored : ((replay {} {} loweredCalls).2.find? ⟨1⟩).any fun t =>
      t.status = .failed && t.completedAt.isNone && t.attempts = 1 &&
        t.nextAttemptAt = some .epoch && (replay {} {} loweredCalls).2.isSatisfied t.id &&
        (replay {} {} loweredCalls).2.findType? t.taskType = some ⟨"mail", 1, 0, none, .epoch⟩ := by
    decide +kernel
  obtain ⟨t, found, row⟩ := (Option.any_eq_true _ _).1 stored
  simp only [Bool.and_eq_true, decide_eq_true_eq, Option.isNone_iff_eq_none] at row
  obtain ⟨⟨⟨⟨⟨failed, unstamped⟩, attempts⟩, waits⟩, satisfied⟩, known⟩ := row
  have reached : ¬ t.attempts < 1 := by rw [attempts]; decide
  refine ⟨t, run, found, ?_, failed, unstamped, satisfied, ?_⟩
  · rw [State.attended_iff_of_failed failed unstamped known waits]
    exact reached
  · rw [State.unclaimable_iff_of_failed failed unstamped known waits satisfied]
    exact Int.not_lt.1 reached

end WorkQueue.Memory
