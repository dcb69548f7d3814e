import WorkQueue.Proofs.Memory.Consistency

/-!
# Progress

As long as every task is pending or completed and no schedule lies ahead, the queue is not stuck:
the prerequisites of some pending task are all completed, because edges form no cycle.

## Main definitions

* `Memory.State.pendingIds`: the pending tasks
* `Memory.State.Open`: rows that are pending and due, or completed

## Main statements

* `Memory.Run.exists_claimable`: if a task is pending, some task is claimable
* `Memory.State.candidates_ne_nil`: then a claim returns a task, in whatever order rows are visited
* `Memory.Run.completed_of_dependsOn`: a claimed task has all its prerequisites behind it, the
  indirect ones included
-/

namespace WorkQueue.Memory

open Dependency

variable {policy : Backoff.Policy} {s : State} {history : List Exchange} {id a b : Uuid} {t : Task}
  {now : Timestamp} {limit : Nat}

namespace State

/-- The identifiers of the pending tasks. -/
def pendingIds (s : State) : List Uuid :=
  (s.tasks.filter fun t => t.status = .pending).map (·.id)

theorem mem_pendingIds (hs : s.Keyed) :
    id ∈ s.pendingIds ↔ ∃ t, s.find? id = some t ∧ t.status = .pending := by
  simp only [pendingIds, List.mem_map, List.mem_filter, decide_eq_true_eq, find?_eq_some_iff hs]
  grind

theorem Keyed.nodup_pendingIds (hs : s.Keyed) : s.pendingIds.Nodup :=
  hs.sublist (List.filter_sublist.map _)

/-- Every row is pending and due, or completed. -/
def Open (s : State) (now : Timestamp) : Prop :=
  ∀ id t, s.find? id = some t →
    t.status = .pending ∧ t.scheduledFor ≤ now ∨ t.status = .completed

theorem candidates_ne_nil (stored : t ∈ s.tasks) (claimable : s.isClaimable now t)
    (positive : 1 ≤ limit) : s.candidates limit now ≠ [] := by
  have sorted : t ∈ Task.sortForClaim (s.tasks.filter (s.isClaimable now)) := by
    rw [Task.sortForClaim, List.mem_mergeSort]
    exact List.mem_filter.2 ⟨stored, claimable⟩
  intro none
  rcases List.take_eq_nil_iff.1 none with zero | empty
  · omega
  · exact List.ne_nil_of_mem sorted empty

end State

/-- If all rows are open and one is pending, the first pending one along the edges is claimable. -/
theorem Run.exists_claimable (run : Run policy {} history s) (opened : s.Open now)
    (pending : s.pendingIds ≠ []) : ∃ id t, s.find? id = some t ∧ s.isClaimable now t := by
  have hs := run.keyed keyed_empty
  obtain ⟨first, hfirst, independent⟩ := run.linked.acyclic.exists_first pending
  obtain ⟨t, found, waits⟩ := (State.mem_pendingIds hs).1 hfirst
  obtain ⟨type, known⟩ := run.exists_type found
  have due : t.scheduledFor ≤ now := by
    rcases opened first t found with ⟨-, due⟩ | completed
    · exact due
    · simp [waits] at completed
  refine ⟨first, t, found, State.isClaimable_iff.2 ⟨type, known, .inl ⟨waits, due⟩, ?_⟩⟩
  intro e he task_eq
  rw [State.id_of_find? found] at task_eq
  obtain ⟨p, found'⟩ := Option.isSome_iff_exists.1 (run.linked.stored e he).2
  rcases opened e.prerequisite p found' with ⟨waits', -⟩ | completed
  · -- a pending prerequisite would come before the first pending task
    have path : DependsOn s.edges first e.prerequisite := .single ⟨e, he, task_eq, rfl⟩
    exact absurd path (independent _ ((State.mem_pendingIds hs).2 ⟨p, found', waits'⟩))
  · exact ⟨p, found', completed⟩

/-- Whatever a claimed task depends on, directly or not, is completed. -/
theorem Run.completed_of_dependsOn (run : Run policy {} history s) (found : s.find? a = some t)
    (claimed : t.claimedBy.isSome) (path : DependsOn s.edges a b) : s.Completed b := by
  induction path with
  | single edge =>
    obtain ⟨e, he, rfl, rfl⟩ := edge
    exact run.ordered e he t found claimed
  | tail _ edge ih =>
    obtain ⟨e, he, rfl, rfl⟩ := edge
    obtain ⟨p, found', completed⟩ := ih
    have claimed' : p.claimedBy.isSome :=
      (run.journey found').claimedBy_of_status (by simp [completed, pastClaim])
    exact run.ordered e he p found' claimed'

end WorkQueue.Memory
