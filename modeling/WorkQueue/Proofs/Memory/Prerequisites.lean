import WorkQueue.Proofs.Memory.Edges
import WorkQueue.Proofs.Memory.Journey

/-!
# Prerequisites come first

A claim looks at the prerequisites of a task at one instant only. What it saw stays true: completed
tasks never change again, and a task gains prerequisites only before its first claim.

## Main definitions

* `Memory.State.Ordered`: the prerequisites of claimed tasks are completed
* `Memory.PrerequisitesFirst`: what the order of a run's claims and completions is

## Main statements

* `Memory.Step.completed`: completed tasks stay completed
* `Memory.Run.ordered`, `Memory.prerequisites_first`: prerequisites come first in every run
-/

namespace WorkQueue.Memory

variable {policy : Backoff.Policy} {s s' : State} {history : List Exchange} {x : Exchange}
  {id : Uuid} {t t' a b : Task} {ts : List Task} {e : Dependency} {action : Action}
  {moves : List (Action × Task)}

/-! ### Tasks that were claimed -/

/-- The statuses that only a claimed task can have. -/
def pastClaim : List Status := [.claimed, .processing, .completed, .failed]

theorem target_mem_pastClaim (h : action ≠ .cancel) : target action ∈ pastClaim := by
  cases action with
  | cancel => exact absurd rfl h
  | claim | start | complete | fail => decide

/-- Only a claim names a worker. -/
theorem Moves.claimedBy_eq (move : Moves policy s t action t') (h : action ≠ .claim) :
    t'.claimedBy = t.claimedBy := by
  cases move with
  | claim => exact absurd rfl h
  | start | complete | fail | cancel => rfl

/-- A task is claimed only after its prerequisites. -/
theorem Moves.satisfied (move : Moves policy s t .claim t') (he : e ∈ s.edges)
    (h : e.task = t.id) : s.Completed e.prerequisite := by
  cases move with
  | claim worker now claimable =>
    obtain ⟨_, _, _, satisfied⟩ := State.isClaimable_iff.1 claimable
    exact satisfied e he h

namespace Journey

/-- The worker's name tells whether a task has ever been claimed. -/
theorem claimedBy_isSome_iff (journey : Journey policy moves t) :
    t.claimedBy.isSome ↔ .claim ∈ moves.map Prod.fst := by
  induction journey with
  | created => simp [Task.ofNew]
  | @moved s moves t t' action journey move ih =>
    rw [List.map_append, List.mem_append, ← ih]
    by_cases h : action = .claim
    · subst h
      cases move
      exact iff_of_true rfl (.inr List.mem_cons_self)
    · rw [move.claimedBy_eq h]
      simp [Ne.symm h]

theorem claimedBy_of_status (journey : Journey policy moves t) (h : t.status ∈ pastClaim) :
    t.claimedBy.isSome := by
  rw [journey.claimedBy_isSome_iff]
  have course := journey.course
  generalize t.status = status at h course
  cases status with
  | pending | cancelled => simp [pastClaim] at h
  | claimed | processing | completed =>
    obtain ⟨n, word⟩ := course
    simp [word]
  | failed =>
    obtain ⟨n, word⟩ := course
    simp [word, rounds_succ]

theorem claimedBy_of_pending (journey : Journey policy moves t) (h : t.status = .pending) :
    ¬ t.claimedBy.isSome := by
  rw [journey.claimedBy_isSome_iff, journey.word_of_pending h]
  exact List.not_mem_nil

end Journey

/-! ### Steps and runs -/

/-- Completed tasks stay completed. -/
theorem Step.completed (step : Step policy s x s') (hs : s.Keyed) (h : s.Completed id) :
    s'.Completed id := by
  obtain ⟨t, found, completed⟩ := h
  rcases step.row_of_found hs found with found' | ⟨action, t', -, move⟩
  · exact ⟨t, found', completed⟩
  · have open_ := move.isTerminal_eq_false
    simp [Task.isTerminal, Status.isAlwaysTerminal, completed] at open_

/-- The prerequisites of every task that was ever claimed are completed. -/
def State.Ordered (s : State) : Prop :=
  ∀ e ∈ s.edges, ∀ t, s.find? e.task = some t → t.claimedBy.isSome → s.Completed e.prerequisite

/-- A step keeps the order, of edges that were there before it. -/
theorem Step.ordered (step : Step policy s x s') (hs : s.Keyed) (h : s.Ordered) (he : e ∈ s.edges)
    (found : s'.find? e.task = some t) (claimed : t.claimedBy.isSome) :
    s.Completed e.prerequisite := by
  rcases step.row_cases hs found with
    ⟨-, before⟩ | ⟨-, -, spec, checked, now, -, rfl⟩ | ⟨old, action, -, before, move⟩
  · exact h e he t before claimed
  · cases claimed
  · by_cases first : action = .claim
    · subst first
      exact move.satisfied he (State.id_of_find? before).symm
    · rw [move.claimedBy_eq first] at claimed
      exact h e he old before claimed

theorem Run.ordered (run : Run policy {} history s) : s.Ordered := by
  induction run with
  | nil => exact fun e he => absurd he List.not_mem_nil
  | snoc run step ih =>
    have hs := run.keyed keyed_empty
    intro e he t found claimed
    rcases (step.edgeChange hs).pending he with known | ⟨t', found', pending⟩
    · exact step.completed hs (step.ordered hs ih known found claimed)
    · -- a task that gains a prerequisite has not been claimed yet
      obtain rfl := Option.some.inj (found.symm.trans found')
      exact absurd claimed (((run.snoc step).journey found).claimedBy_of_pending pending)

/-! ### Chains -/

theorem Change.chain_edges {specs : List NewTask} {ids : List Uuid} {now : Timestamp}
    (c : Change policy s (.createChain specs ids now) (.tasks ts) s') :
    s'.edges = s.edges ++ State.chainEdges now ts := by
  cases c with
  | chained => rfl

/-- Each task of a chain waits for the one before it, from its creation on. -/
theorem Run.chain_edge (run : Run policy {} history s) {specs : List NewTask} {ids : List Uuid}
    {now : Timestamp} (h : ⟨.createChain specs ids now, .tasks ts⟩ ∈ history)
    (inside : [a, b] <:+: ts) : ⟨b.id, a.id, now⟩ ∈ s.edges := by
  induction run with
  | nil => simp at h
  | snoc run step ih =>
    rcases List.mem_append.1 h with h | h
    · exact (step.edgeChange (run.keyed keyed_empty)).subset (ih h)
    · obtain rfl := List.mem_singleton.1 h
      obtain ⟨order, -, -, c⟩ := step.change
      rw [c.chain_edges]
      exact List.mem_append_right _ (State.mem_chainEdges.2 ⟨a, b, inside, rfl⟩)

/-! ### Histories -/

/-- What is promised of prerequisites after a history. -/
structure PrerequisitesFirst (policy : Backoff.Policy) (history : List Exchange) (s : State) :
    Prop where
  /-- If a worker has claimed a task, its prerequisites are stored and completed. -/
  ordered : ∀ e ∈ s.edges, ∀ t, s.find? e.task = some t → t.claimedBy.isSome →
    s.Completed e.prerequisite
  /-- A worker is named if and only if the task has been claimed before. -/
  claimedBy_iff : ∀ id t, s.find? id = some t →
    (t.claimedBy.isSome ↔ .claim ∈ (movesOf history id).map Prod.fst)
  /-- This is so for every task that is claimed, processing, completed or failed. -/
  pastClaim : ∀ id t, s.find? id = some t → t.status ∈ pastClaim → t.claimedBy.isSome
  /-- A task of a chain is claimed, processing, completed or failed only if the one before it is
  completed. -/
  chain : ∀ specs ids now ts a b, ⟨.createChain specs ids now, .tasks ts⟩ ∈ history →
    [a, b] <:+: ts → ∀ t, s.find? b.id = some t → t.status ∈ Memory.pastClaim → s.Completed a.id
  /-- Only then it can be claimed, started, completed or failed. -/
  chain_moves : ∀ specs ids now ts a b, ⟨.createChain specs ids now, .tasks ts⟩ ∈ history →
    [a, b] <:+: ts → ∀ x s', Step policy s x s' → ∀ m ∈ x.moves b.id, m.1 ≠ .cancel →
      s.Completed a.id

/-- In every run, prerequisites come first. -/
theorem prerequisites_first (run : Run policy {} history s) :
    PrerequisitesFirst policy history s where
  ordered := run.ordered
  claimedBy_iff id t found := (run.journey found).claimedBy_isSome_iff
  pastClaim id t found h := (run.journey found).claimedBy_of_status h
  chain specs ids now ts a b created inside t found h :=
    run.ordered _ (run.chain_edge created inside) t found
      ((run.journey found).claimedBy_of_status h)
  chain_moves specs ids now ts a b created inside x s' step m hm kept := by
    have hs := run.keyed keyed_empty
    obtain ⟨old, before, after, move⟩ := step.of_mem_moves hs hm
    refine step.ordered hs run.ordered (run.chain_edge created inside) after ?_
    refine ((run.snoc step).journey after).claimedBy_of_status ?_
    rw [move.status_eq]
    exact target_mem_pastClaim kept

/-- A chain of two tasks, of which the first one is completed and the second one started. -/
def orderedCalls : List Call :=
  [.upsertType ⟨"mail", 2, 0, none⟩ .epoch,
    .createChain (List.replicate 2 { taskType := "mail", payload := .null }) [⟨1⟩, ⟨2⟩] .epoch,
    .claim "a" 5 .epoch, .start ⟨1⟩ .epoch, .complete ⟨1⟩ .epoch, .claim "b" 5 .epoch,
    .start ⟨2⟩ .epoch]

theorem prerequisites_first_of_chain : ∃ history s, Run {} {} history s ∧
    s.tasks.map (·.status) = [.completed, .processing] ∧ PrerequisitesFirst {} history s := by
  have run : Run {} {} (replay {} {} orderedCalls).1 (replay {} {} orderedCalls).2 :=
    run_replay (by decide +kernel)
  exact ⟨_, _, run, by decide +kernel, prerequisites_first run⟩

end WorkQueue.Memory
