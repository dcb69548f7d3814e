import WorkQueue.Proofs.Memory.Frozen
import WorkQueue.Proofs.Memory.Progress

/-!
# Dead prerequisites

A task that was cancelled or that failed for good never completes. A claim asks only for the direct
prerequisites of a task, and only at one instant; still nothing that depends on a dead task, however
indirectly, was ever claimed or ever will be. A claimed task has everything it depends on behind it,
in every state of a run, and neither a dead task nor an edge changes again.

## Main definitions

* `Task.Dead`: cancelled, or failed for good
* `Memory.Blocked`: what holds of a task that depends on a dead one

## Main statements

* `Memory.Run.blocked`: a dead task blocks whatever depends on it
* `Memory.dead_prerequisite_blocks`: so it does in every continuation of the run
-/

namespace WorkQueue

/-- The task was cancelled, or failed for good. -/
def Task.Dead (t : Task) : Prop := t.status = .cancelled ∨ t.retriesExhausted

instance (t : Task) : Decidable t.Dead := inferInstanceAs (Decidable (_ ∨ _))

variable {t : Task}

theorem Task.Dead.isTerminal (dead : t.Dead) : t.isTerminal := by
  rcases dead with cancelled | exhausted
  · exact Task.isTerminal_of_status rfl cancelled
  · simp [Task.isTerminal, exhausted]

theorem Task.Dead.status_ne_completed (dead : t.Dead) : t.status ≠ .completed := by
  rcases dead with cancelled | exhausted
  · simp [cancelled]
  · intro completed
    simp [Task.retriesExhausted, completed] at exhausted

namespace Memory

open Dependency

variable {policy : Backoff.Policy} {s s' : State} {history continuation : List Exchange}
  {id p : Uuid} {row : Task}

/-! ### What a continuation keeps -/

theorem Run.edges_subset (later : Run policy s continuation s') (hs : s.Keyed) :
    s.edges ⊆ s'.edges := by
  induction later with
  | nil => exact List.Subset.refl _
  | snoc later step ih => exact List.Subset.trans ih (step.edgeChange (later.keyed hs)).subset

/-! ### Dependents of a dead task -/

theorem State.not_completed_of_dead (found : s.find? p = some row) (dead : row.Dead) :
    ¬ s.Completed p := by
  rintro ⟨t, found', completed⟩
  obtain rfl := Option.some.inj (found.symm.trans found')
  exact dead.status_ne_completed completed

/-- A task with a prerequisite is stored. -/
theorem State.Linked.exists_of_dependsOn (linked : s.Linked) (path : DependsOn s.edges id p) :
    ∃ t, s.find? id = some t := by
  obtain ⟨_, ⟨e, he, rfl, -⟩, -⟩ := Relation.TransGen.head'_iff.1 path
  exact Option.isSome_iff_exists.1 (linked.stored e he).1

/-- What depends on a dead task names no worker. -/
theorem Run.claimedBy_eq_none (run : Run policy {} history s) (found : s.find? p = some row)
    (dead : row.Dead) (path : DependsOn s.edges id p) (stored : s.find? id = some t) :
    t.claimedBy = none := by
  rw [← Option.not_isSome_iff_eq_none]
  intro claimed
  exact State.not_completed_of_dead found dead (run.completed_of_dependsOn stored claimed path)

/-- A task that names no worker is pending or cancelled. -/
theorem Run.status_of_unclaimed (run : Run policy {} history s) (found : s.find? id = some t)
    (unclaimed : t.claimedBy = none) : t.status = .pending ∨ t.status = .cancelled := by
  have past : t.status ∉ pastClaim := by
    intro past
    have claimed := (run.journey found).claimedBy_of_status past
    rw [unclaimed] at claimed
    cases claimed
  revert past
  cases t.status <;> decide

/-- A task that names no worker was in no batch. -/
theorem Run.notMem_batch_of_unclaimed (run : Run policy {} history s) (found : s.find? id = some t)
    (unclaimed : t.claimedBy = none) {x : Exchange} (hx : x ∈ history) :
    id ∉ x.batch.map (·.id) := by
  intro returned
  have claimed := (run.journey found).claimedBy_isSome_iff.2
    (run.claim_mem_movesOf_iff.2 ⟨x, hx, returned⟩)
  rw [unclaimed] at claimed
  cases claimed

/-- What is promised of a task that depends on a dead one, after a history. -/
structure Blocked (history : List Exchange) (s : State) (id : Uuid) : Prop where
  /-- It is pending or cancelled and has never been claimed. -/
  row : ∃ t, s.find? id = some t ∧ (t.status = .pending ∨ t.status = .cancelled) ∧
    t.claimedBy = none
  /-- It is in no batch that was claimed. -/
  unclaimed : ∀ x ∈ history, id ∉ x.batch.map (·.id)

theorem Run.blocked (run : Run policy {} history s) (found : s.find? p = some row)
    (dead : row.Dead) (path : DependsOn s.edges id p) : Blocked history s id := by
  obtain ⟨t, stored⟩ := run.linked.exists_of_dependsOn path
  have unclaimed := run.claimedBy_eq_none found dead path stored
  exact ⟨⟨t, stored, run.status_of_unclaimed stored unclaimed, unclaimed⟩,
    fun x hx => run.notMem_batch_of_unclaimed stored unclaimed hx⟩

theorem Run.satisfied_of_dead (run : Run policy {} history s) (found : s.find? p = some row)
    (dead : row.Dead) (edge : WaitsFor s.edges id p) : s.satisfied id = .ok false := by
  obtain ⟨t, stored⟩ := run.linked.exists_of_dependsOn (.single edge)
  have unsatisfied : s.isSatisfied id = false := by
    rw [← Bool.not_eq_true, State.isSatisfied_iff]
    intro satisfied
    obtain ⟨e, he, task_eq, rfl⟩ := edge
    exact State.not_completed_of_dead found dead (satisfied e he task_eq)
  simp [State.satisfied, stored, unsatisfied]

/-- A task that is dead at some point of a run blocks, from there on, every task that depends on it
there, directly or not; the direct ones are never satisfied. -/
theorem dead_prerequisite_blocks (run : Run policy {} history s) (found : s.find? p = some row)
    (dead : row.Dead) (later : Run policy s continuation s') :
    (∀ id, DependsOn s.edges id p → Blocked (history ++ continuation) s' id) ∧
      ∀ id, WaitsFor s.edges id p → s'.satisfied id = .ok false := by
  have hs := run.keyed keyed_empty
  have whole := run.append later
  have found' := later.find?_of_terminal hs found dead.isTerminal
  have kept := later.edges_subset hs
  exact ⟨fun id path => whole.blocked found' dead (path.mono kept),
    fun id edge => whole.satisfied_of_dead found' dead (edge.mono kept)⟩

/-- A chain of three tasks, of which the first one fails for good. -/
def brokenChainCalls : List Call :=
  [.upsertType ⟨"mail", 1, 0, none⟩ .epoch,
    .createChain (List.replicate 3 { taskType := "mail", payload := .null }) [⟨1⟩, ⟨2⟩, ⟨3⟩] .epoch,
    .claim "a" 5 .epoch, .start ⟨1⟩ .epoch, .fail ⟨1⟩ "refused" .epoch]

/-- More attempts are allowed, the task in the middle is cancelled, and all that can be is claimed. -/
def repairCalls : List Call :=
  [.upsertType ⟨"mail", 5, 0, none⟩ .epoch, .claim "b" 5 .latest, .cancel ⟨2⟩ .latest,
    .claim "b" 5 .latest, .start ⟨3⟩ .latest]

theorem dead_prerequisite_blocks_of_chain : ∃ history s row continuation s', Run {} {} history s ∧
    s.find? ⟨1⟩ = some row ∧ row.Dead ∧ Run {} s continuation s' ∧
    DependsOn s.edges ⟨3⟩ ⟨1⟩ ∧ s'.tasks.map (·.status) = [.failed, .cancelled, .pending] ∧
    Blocked (history ++ continuation) s' ⟨3⟩ ∧ s'.satisfied ⟨2⟩ = .ok false := by
  have run : Run {} {} (replay {} {} brokenChainCalls).1 (replay {} {} brokenChainCalls).2 :=
    run_replay (by decide +kernel)
  have stored : ((replay {} {} brokenChainCalls).2.find? ⟨1⟩).any fun t => decide t.Dead := by
    decide +kernel
  obtain ⟨row, found, dead⟩ := (Option.any_eq_true _ _).1 stored
  have edges_eq : (replay {} {} brokenChainCalls).2.edges =
      [⟨⟨2⟩, ⟨1⟩, .epoch⟩, ⟨⟨3⟩, ⟨2⟩, .epoch⟩] := by decide +kernel
  have second : WaitsFor (replay {} {} brokenChainCalls).2.edges ⟨2⟩ ⟨1⟩ :=
    ⟨⟨⟨2⟩, ⟨1⟩, .epoch⟩, by simp [edges_eq], rfl, rfl⟩
  have third : WaitsFor (replay {} {} brokenChainCalls).2.edges ⟨3⟩ ⟨2⟩ :=
    ⟨⟨⟨3⟩, ⟨2⟩, .epoch⟩, by simp [edges_eq], rfl, rfl⟩
  have path := (Relation.TransGen.single third).tail second
  have later : Run {} (replay {} {} brokenChainCalls).2
      (replay {} (replay {} {} brokenChainCalls).2 repairCalls).1
      (replay {} (replay {} {} brokenChainCalls).2 repairCalls).2 :=
    run_replay (by decide +kernel)
  have blocks := dead_prerequisite_blocks run found (of_decide_eq_true dead) later
  exact ⟨_, _, row, _, _, run, found, of_decide_eq_true dead, later, path, by decide +kernel,
    blocks.1 ⟨3⟩ path, blocks.2 ⟨2⟩ second⟩

end Memory

end WorkQueue
