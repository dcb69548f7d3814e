import WorkQueue.Proofs.Memory.Exclusion

/-!
# Terminal tasks

A task that completed, was cancelled, or failed for good stays as it is, whatever is called next and
whatever its type is registered with later. A failed task shares its status with the ones that are
tried again: only its completion stamp tells them apart, and every transition looks at it.

## Main definitions

* `Memory.Frozen`: what holds of a terminal task after any continuation of its run

## Main statements

* `Memory.State.serve_of_terminal`: a transition of a terminal task is refused
* `Memory.Step.find?_of_terminal`, `Memory.Run.find?_of_terminal`: terminal rows stay
* `Memory.terminal_frozen`: terminal tasks are frozen
-/

namespace WorkQueue

theorem Task.isTerminal_of_status {t : Task} {status : Status} (always : status.isAlwaysTerminal)
    (at_ : t.status = status) : t.isTerminal := by
  rw [Task.isTerminal, at_, always]
  rfl

/-- No action has a target from a terminal task. -/
theorem Task.target?_of_terminal {t : Task} (terminal : t.isTerminal) (action : Action) :
    t.target? action = .error (t.refusal action) := by
  have stuck : t.status = .completed ∨ t.status = .cancelled ∨
      t.status = .failed ∧ t.retriesExhausted := by
    unfold Task.isTerminal Status.isAlwaysTerminal at terminal
    cases status : t.status <;> simp_all [Task.retriesExhausted]
  unfold Task.target?
  rcases stuck with completed | cancelled | ⟨failed, exhausted⟩
  · rw [completed]
  · rw [cancelled]
  · rw [failed]
    cases action <;> simp [exhausted]

namespace Memory

variable {policy : Backoff.Policy} {s s' : State} {history continuation : List Exchange}
  {x : Exchange} {id : Uuid} {t : Task} {action : Action} {call : Call}

/-! ### Refused transitions -/

/-- A transition of a terminal task is refused before its row is touched, whether or not its status
is a source of the action. -/
theorem Update.on_transition_of_terminal (found : s.find? id = some t) (terminal : t.isTerminal)
    (action : Action) (now : Timestamp) (fill : State → Task → Outcome Task) :
    (Update.transition id action now fill).on s =
      (.error (.invalidTransition id t.status action), s) := by
  have stuck := t.target?_of_terminal terminal action
  have refusal : t.refusal action = .invalidTransition id t.status action := by
    rw [Task.refusal, State.id_of_find? found]
  rw [on_transition, found]
  by_cases source : t.status ∈ action.sources
  · simp [source, stuck, refusal]
  · simp [source, Failure.ofRejected, stuck, refusal]

/-- Every call that would start, complete, fail or cancel a terminal task is refused. -/
theorem State.serve_of_terminal (subject : call.subject? = some (id, action))
    (found : s.find? id = some t) (terminal : t.isTerminal) :
    s.serve policy call = (.refused (.invalidTransition id t.status action), s) := by
  have refused := Update.on_transition_of_terminal found terminal action
  cases call with
  | start id' now | complete id' now | fail id' message now | cancel id' now =>
    obtain ⟨rfl, rfl⟩ := Prod.mk.inj (Option.some.inj subject)
    simp [State.serve, State.answer, Update.start, Update.complete, Update.fail, Update.cancel,
      refused]
  | enqueue | createChain | addDependency | upsertType | claim => cases subject

/-! ### Steps and runs -/

/-- A step leaves a terminal row as it is. -/
theorem Step.find?_of_terminal (step : Step policy s x s') (hs : s.Keyed)
    (found : s.find? id = some t) (terminal : t.isTerminal) : s'.find? id = some t := by
  rcases step.row_of_found hs found with found' | ⟨action, t', -, move⟩
  · exact found'
  · exact absurd terminal move.not_isTerminal

/-- A continuation leaves a terminal row as it is. -/
theorem Run.find?_of_terminal (later : Run policy s continuation s') (hs : s.Keyed)
    (found : s.find? id = some t) (terminal : t.isTerminal) : s'.find? id = some t := by
  induction later with
  | nil => exact found
  | snoc later step ih => exact step.find?_of_terminal (later.keyed hs) ih terminal

/-- A claim returns no terminal task. -/
theorem Step.notMem_batch_of_terminal (step : Step policy s x s') (hs : s.Keyed)
    (found : s.find? id = some t) (terminal : t.isTerminal) : id ∉ x.batch.map (·.id) := by
  intro claimed
  obtain ⟨t', ht', rfl⟩ := List.mem_map.1 claimed
  obtain ⟨old, found', move⟩ := step.claim_of_mem_batch hs ht'
  obtain rfl := Option.some.inj (found.symm.trans found')
  exact move.not_isTerminal terminal

/-- A step that would move a terminal task is refused. -/
theorem Step.reply_of_terminal (step : Step policy s x s') (hs : s.Keyed)
    (found : s.find? id = some t) (terminal : t.isTerminal)
    (subject : x.call.subject? = some (id, action)) :
    x.reply = .refused (.invalidTransition id t.status action) := by
  obtain @⟨order, call, perm, admissible⟩ := step
  have found' : (s.visiting order).find? id = some t := by
    rw [State.find?_visiting hs perm, found]
  exact congrArg Prod.fst (State.serve_of_terminal subject found' terminal)

/-- What is promised of a terminal task after a continuation of the run in which it became
terminal. -/
structure Frozen (t : Task) (continuation : List Exchange) (s : State) : Prop where
  /-- Its row is the same in every field. -/
  row : s.find? t.id = some t
  /-- It is in no batch that was claimed. -/
  unclaimed : ∀ x ∈ continuation, t.id ∉ x.batch.map (·.id)
  /-- Every call that would start, complete, fail or cancel it was refused with its identifier, its
  status and the action. -/
  refused : ∀ x ∈ continuation, ∀ action, x.call.subject? = some (t.id, action) →
    x.reply = .refused (.invalidTransition t.id t.status action)

/-- One more step keeps a terminal task frozen. -/
theorem Frozen.snoc (frozen : Frozen t continuation s) (step : Step policy s x s') (hs : s.Keyed)
    (terminal : t.isTerminal) : Frozen t (continuation ++ [x]) s' where
  row := step.find?_of_terminal hs frozen.row terminal
  unclaimed y hy := by
    rcases List.mem_append.1 hy with hy | hy
    · exact frozen.unclaimed y hy
    · obtain rfl := List.mem_singleton.1 hy
      exact step.notMem_batch_of_terminal hs frozen.row terminal
  refused y hy action subject := by
    rcases List.mem_append.1 hy with hy | hy
    · exact frozen.refused y hy action subject
    · obtain rfl := List.mem_singleton.1 hy
      exact step.reply_of_terminal hs frozen.row terminal subject

/-- A task that is terminal at some point of a run is frozen from there on. -/
theorem terminal_frozen (run : Run policy {} history s) (found : s.find? id = some t)
    (terminal : t.isTerminal) (later : Run policy s continuation s') :
    Frozen t continuation s' := by
  have hs : s.Keyed := run.keyed keyed_empty
  obtain rfl := State.id_of_find? found
  induction later with
  | nil => exact ⟨found, by simp, by simp⟩
  | snoc later step ih => exact ih.snoc step (later.keyed hs) terminal

/-- A task of one attempt that has failed for good. -/
def exhaustedCalls : List Call :=
  [.upsertType ⟨"mail", 1, 0, none⟩ .epoch,
    .enqueue { taskType := "mail", payload := .null } ⟨1⟩ .epoch,
    .claim "a" 5 .epoch, .start ⟨1⟩ .epoch, .fail ⟨1⟩ "refused" .epoch]

/-- Its type is registered again with more attempts, and it is claimed, started and cancelled. -/
def revivalCalls : List Call :=
  [.upsertType ⟨"mail", 5, 0, none⟩ .epoch, .claim "b" 5 .latest, .start ⟨1⟩ .latest,
    .cancel ⟨1⟩ .latest]

theorem terminal_frozen_of_exhausted : ∃ history s t continuation s', Run {} {} history s ∧
    s.find? ⟨1⟩ = some t ∧ t.status = .failed ∧ t.isTerminal ∧ Run {} s continuation s' ∧
    continuation.length = 4 ∧ Frozen t continuation s' := by
  have run : Run {} {} (replay {} {} exhaustedCalls).1 (replay {} {} exhaustedCalls).2 :=
    run_replay (by decide +kernel)
  have stored : ((replay {} {} exhaustedCalls).2.find? ⟨1⟩).any
      fun t => t.status = .failed && t.isTerminal := by decide +kernel
  obtain ⟨t, found, failed⟩ := (Option.any_eq_true _ _).1 stored
  obtain ⟨failed, terminal⟩ : t.status = .failed ∧ t.isTerminal := by simpa using failed
  have later : Run {} (replay {} {} exhaustedCalls).2
      (replay {} (replay {} {} exhaustedCalls).2 revivalCalls).1
      (replay {} (replay {} {} exhaustedCalls).2 revivalCalls).2 :=
    run_replay (by decide +kernel)
  exact ⟨_, _, t, _, _, run, found, failed, terminal, later, by decide +kernel,
    terminal_frozen run found terminal later⟩

end Memory

end WorkQueue
