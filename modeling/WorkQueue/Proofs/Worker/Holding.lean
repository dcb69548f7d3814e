import WorkQueue.Proofs.Memory.Consistency
import WorkQueue.Proofs.Memory.Frozen
import WorkQueue.Proofs.Worker.Crew

/-!
# The rows of tasks in flight

What is known of the row of a task while its execution is at a point: it bears the name of the
worker and the status that the execution left it in, unless the task has been cancelled. The storage
never checks which worker reports an outcome; that no other one does follows from the rows.

## Main definitions

* `Memory.State.HeldBy`: a row with the name of a worker, in a status or cancelled
* `Worker.Held`: the row of an execution's task

## Main statements

* `Memory.Step.row_of_external`, `Step.taken`, `Step.row_of_claim`: rows after calls that neither
  start nor end a task
* `Worker.Held.step`: such calls keep what is known of a row
* `Worker.Held.react`: what the next call of an execution leads to
-/

namespace WorkQueue

namespace Memory

variable {policy : Backoff.Policy} {s s' : State} {x : Exchange} {id : Uuid} {t t' : Task}
  {worker : String} {status : Status} {action : Action}

/-- The task is stored and has been cancelled. -/
def State.Cancelled (s : State) (id : Uuid) : Prop :=
  ∃ t, s.find? id = some t ∧ t.status = .cancelled

/-- The task was claimed under a name last, and is in a status or cancelled. -/
def State.HeldBy (s : State) (worker : String) (id : Uuid) (status : Status) : Prop :=
  ∃ t, s.find? id = some t ∧ t.claimedBy = some worker ∧
    (t.status = status ∨ t.status = .cancelled)

theorem Moves.status_of_claim (move : Moves policy s t .claim t') :
    t.status = .pending ∨ t.status = .failed := by
  cases move with
  | claim worker now claimable =>
    obtain ⟨_, _, ⟨pending, _⟩ | ⟨failed, _⟩, _⟩ := State.isClaimable_iff.1 claimable
    · exact .inl pending
    · exact .inr failed

/-- A row that has been claimed and not ended admits no further claim, and a cancellation leaves the
name of its worker. -/
theorem State.HeldBy.step (held : s.HeldBy worker id status) (active : status.isActive)
    (step : Step policy s x s') (hs : s.Keyed)
    (quiet : ∀ m ∈ x.moves id, m.1 = .claim ∨ m.1 = .cancel) : s'.HeldBy worker id status := by
  obtain ⟨t, found, name, at_⟩ := held
  have row := step.row hs id
  unfold State.HeldBy
  generalize x.moves id = moves at row quiet
  generalize s'.find? id = after at row ⊢
  cases row with
  | kept => exact ⟨t, found, name, at_⟩
  | created now unknown => simp [unknown] at found
  | @moved old t' action before move =>
    obtain rfl := Option.some.inj (found.symm.trans before)
    rcases quiet _ (List.mem_singleton_self _) with rfl | rfl
    · -- neither a status that a worker leaves nor a cancellation is one to claim from
      have taken : t.status.isActive ∨ t.status = .cancelled := at_.imp_left fun at_ => by rwa [at_]
      rcases move.status_of_claim with free | free
      · simp [free, Status.isActive] at taken
      · simp [free, Status.isActive] at taken
    · cases move with
      | cancel now open_ => exact ⟨_, rfl, name, .inr rfl⟩

/-- The status under which a task is stored is that of its row. -/
theorem State.status_of_find? (stored : ∃ row, s.find? id = some row ∧ row.status = status)
    (found : s.find? id = some t) : t.status = status := by
  obtain ⟨row, found', status_eq⟩ := stored
  obtain rfl := Option.some.inj (found.symm.trans found')
  exact status_eq

/-- A status that is always terminal stays. -/
theorem Step.status_of_terminal (step : Step policy s x s') (hs : s.Keyed)
    (always : status.isAlwaysTerminal)
    (stored : ∃ row, s.find? id = some row ∧ row.status = status) :
    ∃ row, s'.find? id = some row ∧ row.status = status := by
  obtain ⟨row, found, at_⟩ := stored
  exact ⟨row, step.find?_of_terminal hs found (Task.isTerminal_of_status always at_), at_⟩

/-- The only transition that other callers make is a cancellation. -/
theorem action_of_external (external : x.call.External) {m : Action × Task}
    (h : m ∈ x.moves id) : m.1 = .cancel := by
  obtain ⟨call, reply⟩ := x
  cases call with
  | enqueue | createChain | addDependency | upsertType =>
    simp [Exchange.moves, Call.subject?, Exchange.batch] at h
  | cancel subject now =>
    cases reply <;> simp [Exchange.moves, Call.subject?, Exchange.batch] at h
    rw [h.2]
  | claim | start | complete | fail => cases external

/-- The row of a task after another caller was served. -/
theorem Step.row_of_external (step : Step policy s x s') (hs : s.Keyed) (external : x.call.External)
    (found : s'.find? id = some t) :
    s.find? id = some t ∨ t.status = .pending ∨ t.status = .cancelled := by
  rcases step.row_cases hs found with ⟨-, before⟩ | ⟨-, -, _, _, _, -, rfl⟩ | ⟨_, _, one, -, move⟩
  · exact .inl before
  · exact .inr (.inl rfl)
  · obtain rfl : _ = Action.cancel :=
      action_of_external external (one ▸ List.mem_singleton_self (_, t))
    exact .inr (.inr move.status_eq)

/-! ### Claims -/

variable {limit : Nat} {now : Timestamp} {ts : List Task}

/-- The transitions that a claim makes are claims of its batch. -/
theorem mem_batch_of_moves {m : Action × Task}
    (h : m ∈ Exchange.moves ⟨.claim worker limit now, .tasks ts⟩ id) :
    m.1 = .claim ∧ m.2 ∈ ts ∧ m.2.id = id := by
  obtain ⟨t, ht, rfl⟩ := List.mem_map.1 h
  obtain ⟨ht, same⟩ := List.mem_filter.1 ht
  exact ⟨rfl, ht, by simpa using same⟩

/-- The rows of a batch before and after its claim. -/
theorem Step.taken (step : Step policy s ⟨.claim worker limit now, .tasks ts⟩ s') (hs : s.Keyed)
    (ht : t ∈ ts) : ∃ old, s.find? t.id = some old ∧
      (old.status = .pending ∨ old.status = .failed) ∧ s'.find? t.id = some t ∧
      t.claimedBy = some worker ∧ t.status = .claimed := by
  have one := moves_eq_of_mem_batch (step.nodup_batch hs) ht
  obtain ⟨old, found, found', move⟩ := step.of_mem_moves hs (one ▸ List.mem_singleton_self _)
  refine ⟨old, found, move.status_of_claim, found', ?_, move.status_eq⟩
  generalize served : (⟨.claim worker limit now, .tasks ts⟩ : Exchange) = x at step
  obtain @⟨order, call, perm, _⟩ := step
  obtain ⟨rfl, reply⟩ := Exchange.mk.inj served
  obtain rfl := Reply.tasks.inj reply
  obtain ⟨_, -, -, row⟩ := State.mem_claim (hs.visiting perm) ht
  rw [row]
  rfl

/-- The row of a task after a claim. -/
theorem Step.row_of_claim (step : Step policy s ⟨.claim worker limit now, .tasks ts⟩ s')
    (hs : s.Keyed) (found : s'.find? id = some t) :
    s.find? id = some t ∨ t.status = .pending ∨ id ∈ ts.map (·.id) ∧ t.status = .claimed := by
  rcases step.row_cases hs found with ⟨-, before⟩ | ⟨-, -, _, _, _, -, rfl⟩ | ⟨_, _, one, -, move⟩
  · exact .inl before
  · exact .inr (.inl rfl)
  · obtain ⟨rfl, ht, rfl⟩ := mem_batch_of_moves (one ▸ List.mem_singleton_self _)
    exact .inr (.inr ⟨List.mem_map_of_mem ht, move.status_eq⟩)

end Memory

namespace Worker

open Memory (Call Exchange Moves Reply Run State Step completedRow failedRow startedRow)

variable {policy : Backoff.Policy} {s s' : State} {x : Exchange} {id : Uuid} {worker : String}
  {e : Execution} {call : Call} {now : Timestamp}

/-- The row of a task while its execution is at a point. Nothing is known of a task whose failure
has been recorded: it may have been claimed again. -/
inductive Held (s : State) (worker : String) (id : Uuid) : Execution → Prop
  | claimed (row : s.HeldBy worker id .claimed) : Held s worker id (.claimed id)
  | started {t : Task} (row : s.HeldBy worker id .processing) : Held s worker id (.started id t)
  | handled {result : Outcome Unit} (row : s.HeldBy worker id .processing) :
      Held s worker id (.handled id result)
  | completed (row : s.Completed id) : Held s worker id (.finished .completed)
  | failed : Held s worker id (.finished .failed)
  | skipped (row : s.Cancelled id) : Held s worker id (.finished .skipped)

/-- The row of a task in flight. -/
theorem Held.row (held : Held s worker id e) (unfinished : 0 < e.remaining) :
    ∃ t, s.find? id = some t ∧ t.claimedBy = some worker ∧
      (t.status = .claimed ∨ t.status = .processing ∨ t.status = .cancelled) := by
  cases held with
  | claimed row =>
    obtain ⟨t, found, name, at_ | at_⟩ := row
    · exact ⟨t, found, name, .inl at_⟩
    · exact ⟨t, found, name, .inr (.inr at_)⟩
  | started row | handled row =>
    obtain ⟨t, found, name, at_⟩ := row
    exact ⟨t, found, name, .inr at_⟩
  | completed | failed | skipped => exact absurd unfinished (Nat.lt_irrefl 0)

/-- Calls that neither start nor end a task keep what is known of its row. -/
theorem Held.step (held : Held s worker id e) (step : Step policy s x s') (hs : s.Keyed)
    (quiet : ∀ m ∈ x.moves id, m.1 = .claim ∨ m.1 = .cancel) : Held s' worker id e := by
  cases held with
  | claimed row => exact .claimed (row.step rfl step hs quiet)
  | started row => exact .started (row.step rfl step hs quiet)
  | handled row => exact .handled (row.step rfl step hs quiet)
  | completed row => exact .completed (step.status_of_terminal hs rfl row)
  | failed => exact .failed
  | skipped row => exact .skipped (step.status_of_terminal hs rfl row)

/-- Only the row of its own task matters to an execution. -/
theorem Held.of_find?_eq (held : Held s worker id e) (same : s'.find? id = s.find? id) :
    Held s' worker id e := by
  cases held with
  | claimed row =>
    obtain ⟨t, found, rest⟩ := row
    exact .claimed ⟨t, same.trans found, rest⟩
  | started row =>
    obtain ⟨t, found, rest⟩ := row
    exact .started ⟨t, same.trans found, rest⟩
  | handled row =>
    obtain ⟨t, found, rest⟩ := row
    exact .handled ⟨t, same.trans found, rest⟩
  | completed row =>
    obtain ⟨t, found, status⟩ := row
    exact .completed ⟨t, same.trans found, status⟩
  | failed => exact .failed
  | skipped row =>
    obtain ⟨t, found, status⟩ := row
    exact .skipped ⟨t, same.trans found, status⟩

/-! ### The next call of an execution -/

/-- Where an execution stands after its transition has been stored. -/
def Execution.after (t : Task) : Action → Execution
  | .complete => .finished .completed
  | .fail => .finished .failed
  | _ => .started t.id t

/-- What the next call of an execution leads to: the transition that it asks for, or the end of an
execution whose task has been cancelled. -/
inductive Reaction (policy : Backoff.Policy) (s : State) (worker : String) (id : Uuid)
    (call : Call) : Reply → Execution → State → Prop
  | refused {failure : Failure} (cancelled : s.Cancelled id) :
      Reaction policy s worker id call (.refused failure) (.finished .skipped) s
  | moved {t t' : Task} {action : Action} (subject : call.subject? = some (id, action))
      (own : action ≠ .claim ∧ action ≠ .cancel) (found : s.find? id = some t)
      (active : t.status.isActive) (move : Moves policy s t action t')
      (held : Held (s.put t') worker id (Execution.after t' action)) :
      Reaction policy s worker id call (.task t') (Execution.after t' action) (s.put t')

/-- The call of an execution whose task has been cancelled is refused. -/
theorem Reaction.of_cancelled {action : Action} (subject : call.subject? = some (id, action))
    (cancelled : s.Cancelled id)
    (skips : ∀ failure, e.resume (.refused failure) = .finished .skipped) :
    Reaction policy s worker id call (s.serve policy call).1 (e.resume (s.serve policy call).1)
      (s.serve policy call).2 := by
  obtain ⟨t, found, status⟩ := cancelled
  rw [State.serve_of_terminal subject found (Task.isTerminal_of_status rfl status), skips]
  exact .refused ⟨t, found, status⟩

theorem Held.react (held : Held s worker id e) (h : e.call? now = some call)
    (run : ∃ history, Run policy {} history s) :
    Reaction policy s worker id call (s.serve policy call).1 (e.resume (s.serve policy call).1)
      (s.serve policy call).2 := by
  cases held with
  | claimed row =>
    obtain rfl := Option.some.inj h
    obtain ⟨t, found, name, claimed | cancelled⟩ := row
    · have ok : (Memory.Update.start id now).on s = (.ok (startedRow now t), _) :=
        Memory.Update.on_start_eq_ok_iff.2 ⟨t, found, claimed, rfl, rfl⟩
      rw [State.serve, State.answer, ok]
      obtain rfl : t.id = id := State.id_of_find? found
      have found' : (s.put (startedRow now t)).find? t.id = some (startedRow now t) :=
        State.find?_put_self (t := startedRow now t) found
      exact .moved rfl (by decide) found (by rw [claimed]; rfl) (.start now claimed)
        (.started ⟨_, found', name, .inl rfl⟩)
    · exact .of_cancelled rfl ⟨t, found, cancelled⟩ fun _ => rfl
  | @handled result row =>
    obtain ⟨t, found, name, processing | cancelled⟩ := row
    · have active : t.status.isActive := by
        rw [processing]
        rfl
      have same : t.id = id := State.id_of_find? found
      cases result with
      | ok _ =>
        obtain rfl := Option.some.inj h
        have ok : (Memory.Update.complete id now).on s = (.ok (completedRow now t), _) :=
          Memory.Update.on_complete_eq_ok_iff.2 ⟨t, found, processing, rfl, rfl⟩
        rw [State.serve, State.answer, ok]
        rw [← same] at found ⊢
        have found' : (s.put (completedRow now t)).find? t.id = some (completedRow now t) :=
          State.find?_put_self (t := completedRow now t) found
        exact .moved rfl (by decide) found active (.complete now processing)
          (.completed ⟨_, found', rfl⟩)
      | error failure =>
        obtain rfl := Option.some.inj h
        -- types are never forgotten, so only a cancellation keeps a failure from being stored
        obtain ⟨history, run⟩ := run
        obtain ⟨type, known⟩ := run.exists_type found
        have ok : (Memory.Update.fail policy id (lastErrorText failure) now).on s =
            (.ok (failedRow policy type (lastErrorText failure) now t), _) :=
          Memory.Update.on_fail_eq_ok_iff.2 ⟨t, type, found, processing, known, rfl, rfl⟩
        rw [State.serve, State.answer, ok]
        exact .moved rfl (by decide) found active (.fail type _ now processing known) .failed
    · have cancelled : s.Cancelled id := ⟨t, found, cancelled⟩
      cases result with
      | ok _ =>
        obtain rfl := Option.some.inj h
        exact .of_cancelled rfl cancelled fun _ => rfl
      | error failure =>
        obtain rfl := Option.some.inj h
        exact .of_cancelled rfl cancelled fun _ => rfl
  | started | completed | failed | skipped => cases h

end Worker

end WorkQueue
