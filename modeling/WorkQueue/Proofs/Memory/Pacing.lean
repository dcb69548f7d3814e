import WorkQueue.Proofs.Backoff.Schedule
import WorkQueue.Proofs.Memory.Frozen
import WorkQueue.Proofs.Memory.Consistency

/-!
# Pacing

A failure stores the instant of the retry, computed under the type as it is known then, and a claim
compares that instant with a clock of its own. In between anything may happen: other tasks come and
go, the type is registered again, the clock goes back. The stored instant stays, so the two readings
keep the distance that the backoff asks for.

## Main definitions

* `Memory.Delayed`: a row that waits for the delay of a type
* `Memory.RetriesPaced`: when the tasks of a history were claimed

## Main statements

* `Memory.Step.claimable_of_mem_batch`, `Memory.Step.failed_of_reply`: rows before a claim, after a
  failure
* `Memory.Run.delayed`: what a failure leaves that is not terminal
* `Memory.Run.waits`: a failed row stays until its task is claimed or closed
* `Memory.retries_paced`: no task is claimed early in any run
-/

namespace WorkQueue.Memory

variable {policy : Backoff.Policy} {s s' : State} {history : List Exchange} {x : Exchange}
  {id : Uuid} {t old : Task} {name worker message : String} {limit : Nat} {now : Timestamp}
  {type : TaskType}

/-! ### Rows before a claim and after a failure -/

/-- A task of a batch was claimable at the reading of its claim. -/
theorem Step.claimable_of_mem_batch (step : Step policy s x s') (hs : s.Keyed)
    (call : x.call = .claim worker limit now) (h : t ∈ x.batch) :
    ∃ old, s.find? t.id = some old ∧ s.isClaimable now old ∧
      t = State.claimedRow worker now old := by
  obtain @⟨order, _, perm, _⟩ := step
  subst call
  obtain ⟨old, found, claimable, row⟩ := State.mem_claim (hs.visiting perm) h
  rw [State.find?_visiting hs perm] at found
  rw [State.isClaimable_visiting hs perm] at claimable
  exact ⟨old, found, claimable, row⟩

theorem State.eq_ok_of_answer {update : Update Task}
    (h : (s.answer .task update).1 = .task t) : ∃ s', update.on s = (.ok t, s') := by
  rw [answer] at h
  cases result : update.on s with
  | mk outcome s' =>
    rw [result] at h
    cases outcome with
    | error failure => cases h
    | ok t' =>
      obtain rfl := Reply.task.inj h
      exact ⟨s', rfl⟩

theorem Step.failed_of_reply (step : Step policy s x s') (hs : s.Keyed)
    (call : x.call = .fail id message now) (reply : x.reply = .task t) :
    ∃ old type, s.find? id = some old ∧ old.status = .processing ∧
      s.findType? old.taskType = some type ∧ t = failedRow policy type message now old := by
  obtain @⟨order, _, perm, _⟩ := step
  subst call
  obtain ⟨s', ok⟩ := State.eq_ok_of_answer reply
  obtain ⟨old, type, found, processing, known, row, -⟩ := Update.on_fail_eq_ok_iff.1 ok
  rw [State.find?_visiting hs perm] at found
  exact ⟨old, type, found, processing, known, row⟩

/-! ### Waiting rows -/

/-- The row of a failed task that no batch takes stays as it is until the task is cancelled. -/
theorem Step.waits (step : Step policy s x s') (hs : s.Keyed) (found : s.find? id = some t)
    (failed : t.status = .failed) (unclaimed : id ∉ x.batch.map (·.id)) :
    s'.find? id = some t ∨ ∃ t', s'.find? id = some t' ∧ t'.isTerminal := by
  have stored := step.isSome_find? hs (Option.isSome_of_eq_some found)
  obtain ⟨t', found'⟩ := Option.isSome_iff_exists.1 stored
  rcases step.row_cases hs found' with
    ⟨-, before⟩ | ⟨-, unknown, -⟩ | ⟨_, action, one, before, move⟩
  · exact .inl (found'.trans (before.symm.trans found))
  · simp [unknown] at found
  · obtain rfl := Option.some.inj (found.symm.trans before)
    cases move with
    | claim worker now claimable =>
      obtain ⟨inside, same⟩ := mem_batch_of_claim (one ▸ List.mem_singleton_self _)
      exact absurd (same ▸ List.mem_map_of_mem inside) unclaimed
    | start now claimed => simp [failed] at claimed
    | complete now processing => simp [failed] at processing
    | fail type message now processing known => simp [failed] at processing
    | cancel now open_ => exact .inr ⟨_, found', Task.isTerminal_of_status rfl rfl⟩

theorem Run.waits (later : Run policy s history s') (hs : s.Keyed) (found : s.find? id = some t)
    (failed : t.status = .failed) (unclaimed : ∀ x ∈ history, id ∉ x.batch.map (·.id)) :
    s'.find? id = some t ∨ ∃ t', s'.find? id = some t' ∧ t'.isTerminal := by
  induction later with
  | nil => exact .inl found
  | snoc later step ih =>
    rcases ih fun x hx => unclaimed x (List.mem_append_left _ hx) with before | ⟨t', before, closed⟩
    · exact step.waits (later.keyed hs) before failed
        (unclaimed _ (List.mem_append_right _ List.mem_cons_self))
    · exact .inr ⟨t', step.find?_of_terminal (later.keyed hs) before closed, closed⟩

/-! ### Registered delays -/

theorem retryBackoff_nonneg_of_validate {type : NewTaskType} (h : type.validate = .ok ()) :
    0 ≤ type.retryBackoffSeconds := by
  unfold NewTaskType.validate at h
  split at h
  · cases h
  · split at h
    · cases h
    · split at h
      · cases h
      · omega

theorem Run.retryBackoff_nonneg (run : Run policy {} history s)
    (known : s.findType? name = some type) : 0 ≤ type.retryBackoffSeconds := by
  obtain ⟨x, hx, registered⟩ := List.mem_flatMap.1 (run.mem_registrations known)
  obtain ⟨_, _, _, _, step⟩ := run.step_of_mem hx
  obtain ⟨order, -, -, c⟩ := step.change
  obtain ⟨call, reply⟩ := x
  -- of all effects of calls, only a registration was registered
  cases c with
  | @registered spec createdAt now valid =>
    simp only [Exchange.registered] at registered
    split at registered
    · obtain rfl := List.mem_singleton.1 registered
      exact retryBackoff_nonneg_of_validate valid
    · cases registered
  | refused | moved => cases call <;> simp [Exchange.registered] at registered
  | _ => simp [Exchange.registered] at registered

/-! ### Delayed rows -/

/-- A failure at an instant left the row, which waits for the delay of its type. -/
structure Delayed (policy : Backoff.Policy) (type : TaskType) (a : Timestamp) (row : Task) :
    Prop where
  failed : row.status = .failed
  left : row.attempts < type.maxAttempts
  retry : ∃ retry, row.nextAttemptAt = some retry ∧
    ∀ b, retry ≤ b ↔ a.DelayOver (policy.idealDelay type.retryBackoffSeconds row.attempts) b

theorem delayed_failedRow (nonneg : 0 ≤ type.retryBackoffSeconds) (attempted : 1 ≤ old.attempts)
    (open_ : (failedRow policy type message now old).isTerminal = false) :
    Delayed policy type now (failedRow policy type message now old) := by
  have stamped_iff : (failedRow policy type message now old).completedAt.isSome ↔
      type.maxAttempts ≤ old.attempts := completedAt_failedRow
  have left : old.attempts < type.maxAttempts := by
    by_contra reached
    have stamped := stamped_iff.2 (Int.not_lt.1 reached)
    have terminal := Task.isTerminal_iff.2 (.inr (.inr ⟨rfl, stamped⟩))
    rw [open_] at terminal
    cases terminal
  refine ⟨rfl, left, policy.retryAt type old.attempts now, ?_, fun b => ?_⟩
  · simp [failedRow, Backoff.Policy.failureSchedule, Int.not_le.2 left]
  · exact Backoff.Policy.retryAt_le_iff nonneg attempted

theorem Delayed.isDue_iff {row : Task} {a : Timestamp} (delayed : Delayed policy type a row)
    (b : Timestamp) : row.isDue b type.maxAttempts ↔
      a.DelayOver (policy.idealDelay type.retryBackoffSeconds row.attempts) b := by
  obtain ⟨failed, left, retry, waits, ends⟩ := delayed
  rw [← ends b]
  simp [Task.isDue, failed, left, waits]

/-- Whatever the ceiling is by then, a claim looks at the stored instant. -/
theorem Delayed.delayOver {row : Task} {a b : Timestamp} (delayed : Delayed policy type a row)
    (claimable : s.isClaimable b row) :
    a.DelayOver (policy.idealDelay type.retryBackoffSeconds row.attempts) b := by
  obtain ⟨failed, left, retry, waits, ends⟩ := delayed
  obtain ⟨_, _, ⟨pending, -⟩ | ⟨-, -, -, retry', waits', due⟩, -⟩ :=
    State.isClaimable_iff.1 claimable
  · simp [failed] at pending
  · obtain rfl := Option.some.inj (waits.symm.trans waits')
    exact (ends b).1 due

/-- A failure that is not terminal leaves a row that waits for the delay of the type known then. -/
theorem Run.delayed (run : Run policy {} history s) (step : Step policy s x s')
    (call : x.call = .fail id message now) (reply : x.reply = .task t)
    (open_ : t.isTerminal = false) :
    ∃ type, s.findType? t.taskType = some type ∧ Delayed policy type now t := by
  obtain ⟨old, type, found, processing, known, rfl⟩ :=
    step.failed_of_reply (run.keyed keyed_empty) call reply
  have attempted : 1 ≤ old.attempts := (run.consistent found).attempts_pos (by simp [processing])
  exact ⟨type, known, delayed_failedRow (run.retryBackoff_nonneg known) attempted open_⟩

/-! ### Histories -/

/-- What is promised of the readings at which tasks were claimed. -/
structure RetriesPaced (policy : Backoff.Policy) (history : List Exchange) : Prop where
  /-- The first claim of a task is not before its schedule. -/
  first : ∀ earlier worker limit b ts later,
    history = earlier ++ ⟨.claim worker limit b, .tasks ts⟩ :: later →
    ∀ t ∈ ts, (∀ x ∈ earlier, t.id ∉ x.batch.map (·.id)) → t.scheduledFor ≤ b
  /-- The row that a failure leaves to be tried again is due from the end of the delay on and not
  before: the one of the type that was registered last before the failure, for the attempts that the
  failure left. -/
  due : ∀ earlier id message a row later,
    history = earlier ++ ⟨.fail id message a, .task row⟩ :: later → row.isTerminal = false →
    ∃ type, (registrations earlier row.taskType).getLast? = some type ∧
      ∀ b, row.isDue b type.maxAttempts ↔
        a.DelayOver (policy.idealDelay type.retryBackoffSeconds row.attempts) b
  /-- The next claim is not before the end of this delay. -/
  again : ∀ earlier id message a row middle worker limit b ts later,
    history = earlier ++ ⟨.fail id message a, .task row⟩ :: middle ++
      ⟨.claim worker limit b, .tasks ts⟩ :: later →
    row.isTerminal = false → (∀ x ∈ middle, id ∉ x.batch.map (·.id)) → id ∈ ts.map (·.id) →
    ∃ type, (registrations earlier row.taskType).getLast? = some type ∧
      a.DelayOver (policy.idealDelay type.retryBackoffSeconds row.attempts) b

theorem Run.scheduledFor_le (run : Run policy {} history s) (found : s.find? id = some t)
    (unclaimed : ∀ x ∈ history, id ∉ x.batch.map (·.id)) (claimable : s.isClaimable now t) :
    t.scheduledFor ≤ now := by
  obtain ⟨_, _, ⟨-, due⟩ | ⟨failed, -⟩, -⟩ := State.isClaimable_iff.1 claimable
  · exact due
  · -- what has failed was claimed before
    have journey := run.journey found
    have claimed := journey.claimedBy_of_status (by simp [failed, pastClaim])
    obtain ⟨x, hx, inside⟩ := run.claim_mem_movesOf_iff.1 (journey.claimedBy_isSome_iff.1 claimed)
    exact absurd inside (unclaimed x hx)

/-- In every run, first claims keep to schedules and retries to delays. -/
theorem retries_paced (run : Run policy {} history s) : RetriesPaced policy history where
  first earlier worker limit b ts later split t ht unclaimed := by
    obtain ⟨s₀, s₁, before, step, -⟩ := run.split split
    obtain ⟨old, found, claimable, row⟩ :=
      step.claimable_of_mem_batch (before.keyed keyed_empty) rfl ht
    have schedule : t.scheduledFor = old.scheduledFor := row ▸ rfl
    exact schedule ▸ before.scheduledFor_le found unclaimed claimable
  due earlier id message a row later split open_ := by
    obtain ⟨s₀, s₁, before, failure, -⟩ := run.split split
    obtain ⟨type, known, delayed⟩ := before.delayed failure rfl rfl open_
    exact ⟨type, before.findType?_eq ▸ known, delayed.isDue_iff⟩
  again earlier id message a row middle worker limit b ts later split open_ unclaimed returned := by
    obtain ⟨t, ht, rfl⟩ := List.mem_map.1 returned
    rw [List.append_assoc, List.cons_append] at split
    obtain ⟨s₀, s₁, before, failure, rest⟩ := run.split split
    obtain ⟨s₂, s₃, between, claim, -⟩ := rest.split rfl
    have keyed₀ := before.keyed keyed_empty
    have keyed₁ := failure.keyed keyed₀
    obtain ⟨type, known, delayed⟩ := before.delayed failure rfl rfl open_
    obtain ⟨_, -, left, -⟩ := failure.of_reply keyed₀ rfl rfl
    obtain ⟨old, found, claimable, -⟩ :=
      claim.claimable_of_mem_batch (between.keyed keyed₁) rfl ht
    refine ⟨type, before.findType?_eq ▸ known, ?_⟩
    rcases between.waits keyed₁ left delayed.failed unclaimed with stays | ⟨_, closed, terminal⟩
    · obtain rfl := Option.some.inj (found.symm.trans stays)
      exact delayed.delayOver claimable
    · -- had the task been closed meanwhile, it would not be claimable
      obtain rfl := Option.some.inj (found.symm.trans closed)
      have move : Moves policy s₂ old .claim _ := .claim worker b claimable
      exact absurd terminal move.not_isTerminal

/-- The instant some seconds after the epoch. -/
def secondsIn (n : Nat) : Timestamp := (Timestamp.epoch.addSeconds? n).getD .latest

/-- A task scheduled for second 10 fails at second 20 and waits until second 50, although its type is
registered without a delay at once and the clock goes back. -/
def pacedCalls : List Call :=
  [.upsertType ⟨"mail", 5, 30, none⟩ .epoch,
    .enqueue { taskType := "mail", payload := .null, scheduledFor := some (secondsIn 10) } ⟨1⟩
      .epoch,
    .claim "a" 5 (secondsIn 9), .claim "a" 5 (secondsIn 10), .start ⟨1⟩ (secondsIn 10),
    .fail ⟨1⟩ "refused" (secondsIn 20), .upsertType ⟨"mail", 5, 0, none⟩ (secondsIn 5),
    .claim "b" 5 (secondsIn 49), .claim "b" 5 (secondsIn 50)]

theorem retries_paced_of_reset : ∃ history s, Run { strategy := .exponential } {} history s ∧
    history.map (·.batch.length) = [0, 0, 0, 1, 0, 0, 0, 0, 1] ∧
    RetriesPaced { strategy := .exponential } history := by
  have run : Run { strategy := .exponential } {}
      (replay { strategy := .exponential } {} pacedCalls).1
      (replay { strategy := .exponential } {} pacedCalls).2 :=
    run_replay (by decide +kernel)
  exact ⟨_, _, run, by decide +kernel, retries_paced run⟩

end WorkQueue.Memory
