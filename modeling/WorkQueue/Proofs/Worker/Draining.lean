import WorkQueue.Proofs.Worker.Sequential
import WorkQueue.Proofs.Worker.Stages

/-!
# Draining a queue

A single worker whose handlers succeed empties a queue of due tasks: every round completes at least
one task as long as one is pending, and no task is executed before the ones that it depends on. This
holds for every batch size of at least one, every order of visiting rows, every interleaving of the
executions of a batch, and every sequence of admitted clock readings.

## Main definitions

* `Worker.Drainable`: rows from which a worker drains the queue
* `Worker.Progressed`: what rounds have done so far
* `Worker.Drained`, `Worker.DrainsInOrder`: what is left at the end, and that it is reached

## Main statements

* `Worker.Drainable.claim`: what a claim does to such rows
* `Worker.Drainable.round`, `Worker.progressed_of_rounds`: one round, and any number of them
* `Worker.drains_in_order`: the queue is drained in the order of its edges
-/

namespace WorkQueue.Worker

open Simulation Dependency
open Memory (Run State Step)
open scoped List

variable {P : Type} {agent : Agent P} {readings : Timestamp → Prop} {s : State}
  {w w' w₁ w₂ : World} {order ts : List Task} {batch : Batch}
  {turns turns₁ turns₂ : List Turn} {n limit : Nat}
  {now : Timestamp} {worker : String}

/-- Every task is pending or completed, no schedule lies ahead of any reading of the clock, and all
types have a processor. -/
structure Drainable (agent : Agent P) (readings : Timestamp → Prop) (s : State) : Prop where
  reachable : ∃ history, Run agent.policy {} history s
  settled : ∀ t ∈ s.tasks, t.status = .pending ∨ t.status = .completed
  due : ∀ t ∈ s.tasks, t.status = .pending → ∀ now, readings now → t.scheduledFor ≤ now
  handles : agent.Handles s

theorem Drainable.keyed (drainable : Drainable agent readings s) : s.Keyed := by
  obtain ⟨history, run⟩ := drainable.reachable
  exact run.keyed Memory.keyed_empty

theorem Drainable.opened (drainable : Drainable agent readings s) (reading : readings now) :
    s.Open now := by
  intro id t found
  have stored := State.mem_of_find? found
  rcases drainable.settled t stored with pending | completed
  · exact .inl ⟨pending, drainable.due t stored pending now reading⟩
  · exact .inr completed

/-! ### Claims -/

/-- What a claim leaves. -/
structure Claimed (agent : Agent P) (s : State) (ts : List Task) (s₁ : State) : Prop where
  reachable : ∃ history, Run agent.policy {} history s₁
  nodup : (ts.map (·.id)).Nodup
  /-- The batch holds tasks that were pending, as they are now. -/
  pending : ∀ t ∈ ts, t.id ∈ s.pendingIds
  claimed : ∀ t ∈ ts, s₁.find? t.id = some t ∧ t.status = .claimed
  ids_perm : (s₁.tasks.map (·.id)).Perm (s.tasks.map (·.id))
  others : ∀ id ∉ ts.map (·.id), s₁.find? id = s.find? id
  edges_eq : s₁.edges = s.edges
  types_eq : s₁.types = s.types

/-- A claim takes pending tasks and leaves the others. -/
theorem Drainable.claim (drainable : Drainable agent readings s) (perm : order.Perm s.tasks)
    (worker : String) (limit : Nat) (now : Timestamp) :
    Claimed agent s ((s.visiting order).claim worker limit now).1
      ((s.visiting order).claim worker limit now).2 := by
  have hs := drainable.keyed
  obtain ⟨history, run⟩ := drainable.reachable
  have step : Step agent.policy s
      ⟨.claim worker limit now, .tasks ((s.visiting order).claim worker limit now).1⟩
      ((s.visiting order).claim worker limit now).2 := .serve perm trivial
  have nodup := step.nodup_batch hs
  have moved : ∀ t ∈ ((s.visiting order).claim worker limit now).1, ∃ old,
      s.find? t.id = some old ∧ ((s.visiting order).claim worker limit now).2.find? t.id = some t ∧
        Memory.Moves agent.policy s old .claim t := by
    intro t ht
    have one := Memory.moves_eq_of_mem_batch nodup ht
    exact step.of_mem_moves hs (one ▸ List.mem_singleton_self _)
  refine ⟨⟨_, run.snoc step⟩, nodup, fun t ht => ?_, fun t ht => ?_, ?_, fun id outside => ?_, ?_,
    ?_⟩
  · obtain ⟨old, found, -, move⟩ := moved t ht
    refine (State.mem_pendingIds hs).2 ⟨old, found, ?_⟩
    -- a completed task admits no claim
    have open_ := move.isTerminal_eq_false
    rcases drainable.settled old (State.mem_of_find? found) with pending | completed
    · exact pending
    · simp [Task.isTerminal, Status.isAlwaysTerminal, completed] at open_
  · obtain ⟨old, -, found, move⟩ := moved t ht
    exact ⟨found, move.status_eq⟩
  · rw [State.claim_snd, State.ids_foldl_put]
    exact perm.map _
  · rw [State.claim_snd, State.find?_foldl_put_of_notMem outside, State.find?_visiting hs perm]
  · rw [State.claim_snd, State.foldl_put_edges, State.visiting_edges]
  · rw [State.claim_snd, State.foldl_put_types, State.visiting_types]

theorem Drainable.claim_ne_nil (drainable : Drainable agent readings s) (perm : order.Perm s.tasks)
    (worker : String) (positive : 1 ≤ limit) (reading : readings now) (pending : s.pendingIds ≠ []) :
    ((s.visiting order).claim worker limit now).1 ≠ [] := by
  have hs := drainable.keyed
  obtain ⟨history, run⟩ := drainable.reachable
  obtain ⟨id, t, found, claimable⟩ := run.exists_claimable (drainable.opened reading) pending
  have visited : t ∈ (s.visiting order).tasks := perm.mem_iff.2 (State.mem_of_find? found)
  rw [← State.isClaimable_visiting hs perm] at claimable
  rw [State.claim_fst]
  intro none
  exact State.candidates_ne_nil visited claimable positive (List.map_eq_nil_iff.1 none)

/-! ### Rounds -/

/-- What rounds have done so far. -/
structure Progressed (agent : Agent P) (readings : Timestamp → Prop) (s : State)
    (turns : List Turn) (s' : State) : Prop where
  drainable : Drainable agent readings s'
  ids_perm : (s'.tasks.map (·.id)).Perm (s.tasks.map (·.id))
  edges_eq : s'.edges = s.edges
  /-- Each task that was pending has been executed once, or is still pending. -/
  pending : s.pendingIds.Perm (invocations turns ++ s'.pendingIds)
  calls : ∀ turn ∈ turns, turn.Calls agent
  inOrder : ∀ turn ∈ turns, turn.InOrder s.edges

theorem Progressed.refl (drainable : Drainable agent readings s) :
    Progressed agent readings s [] s where
  drainable := drainable
  ids_perm := .refl _
  edges_eq := rfl
  pending := .refl _
  calls _ hturn := absurd hturn List.not_mem_nil
  inOrder _ hturn := absurd hturn List.not_mem_nil

theorem invocations_append (turns₁ turns₂ : List Turn) :
    invocations (turns₁ ++ turns₂) = invocations turns₁ ++ invocations turns₂ :=
  List.filterMap_append

theorem Progressed.trans {s₁ s₂ : State} (first : Progressed agent readings s turns₁ s₁)
    (second : Progressed agent readings s₁ turns₂ s₂) :
    Progressed agent readings s (turns₁ ++ turns₂) s₂ where
  drainable := second.drainable
  ids_perm := second.ids_perm.trans first.ids_perm
  edges_eq := second.edges_eq.trans first.edges_eq
  pending := by
    rw [invocations_append, List.append_assoc]
    exact first.pending.trans (second.pending.append_left _)
  calls := List.forall_mem_append.2 ⟨first.calls, second.calls⟩
  inOrder := List.forall_mem_append.2 ⟨first.inOrder, first.edges_eq ▸ second.inOrder⟩

/-- After a batch has been executed a row is completed, or it is one from before the claim. -/
theorem Claimed.row_cases {s₁ : State} (taken : Claimed agent s ts s₁)
    (underway : Underway agent s₁ (ts.map (·.id)) turns w batch) (finished : batch.Finished)
    {t : Task} (ht : t ∈ w.memory.state.tasks) : t.status = .completed ∨ t ∈ s.tasks := by
  have found : w.memory.state.find? t.id = some t :=
    (State.find?_eq_some_iff underway.keyed).2 ⟨ht, rfl⟩
  by_cases inside : t.id ∈ ts.map (·.id)
  · obtain ⟨row, found', completed⟩ := (underway.finished finished).1 _ inside
    obtain rfl := Option.some.inj (found.symm.trans found')
    exact .inl completed
  · rw [underway.others _ inside, taken.others _ inside] at found
    exact .inr (State.mem_of_find? found)

/-- The tasks that were pending before the claim have been executed, or are still pending. -/
theorem Claimed.perm_pendingIds {s₁ : State} (taken : Claimed agent s ts s₁) (hs : s.Keyed)
    (underway : Underway agent s₁ (ts.map (·.id)) turns w batch) (finished : batch.Finished) :
    s.pendingIds ~ invocations turns ++ w.memory.state.pendingIds := by
  have hs' := underway.keyed
  obtain ⟨completed, invoked⟩ := underway.finished finished
  -- neither list has an identifier twice, so it is enough that they have the same ones
  have nodup : (ts.map (·.id) ++ w.memory.state.pendingIds).Nodup := by
    refine List.nodup_append.2 ⟨taken.nodup, hs'.nodup_pendingIds, ?_⟩
    rintro id inside _ waits rfl
    obtain ⟨t, found, pending⟩ := (State.mem_pendingIds hs').1 waits
    obtain ⟨row, found', status⟩ := completed id inside
    obtain rfl := Option.some.inj (found.symm.trans found')
    simp [pending] at status
  have same : ∀ id, id ∈ s.pendingIds ↔ id ∈ ts.map (·.id) ++ w.memory.state.pendingIds := by
    intro id
    rw [List.mem_append, State.mem_pendingIds hs']
    by_cases inside : id ∈ ts.map (·.id)
    · obtain ⟨t, ht, rfl⟩ := List.mem_map.1 inside
      exact iff_of_true (taken.pending t ht) (.inl inside)
    · rw [underway.others _ inside, taken.others _ inside, ← State.mem_pendingIds hs]
      exact (or_iff_right inside).symm
  have perm := (List.perm_ext_iff_of_nodup hs.nodup_pendingIds nodup).2 same
  exact perm.trans (invoked.symm.append_right _)

/-- Rows after a batch are as good as those before its claim. -/
theorem Claimed.progressed {s₁ : State} (taken : Claimed agent s ts s₁)
    (drainable : Drainable agent readings s)
    (underway : Underway agent s₁ (ts.map (·.id)) turns w batch) (finished : batch.Finished) :
    Progressed agent readings s turns w.memory.state := by
  have row_cases : ∀ t ∈ w.memory.state.tasks, t.status = .completed ∨ t ∈ s.tasks :=
    fun t ht => taken.row_cases underway finished ht
  constructor
  · refine ⟨underway.reachable, fun t ht => ?_, fun t ht pending => ?_, fun type known => ?_⟩
    · rcases row_cases t ht with completed | stored
      · exact .inr completed
      · exact drainable.settled t stored
    · rcases row_cases t ht with completed | stored
      · simp [pending] at completed
      · exact drainable.due t stored pending
    · rw [underway.types_eq, taken.types_eq] at known
      exact drainable.handles type known
  · rw [underway.ids_eq]
    exact taken.ids_perm
  · exact underway.edges_eq.trans taken.edges_eq
  · exact taken.perm_pendingIds drainable.keyed underway finished
  · exact underway.calls
  · exact taken.edges_eq ▸ underway.inOrder

/-- A round completes the tasks that it claims, and claims one if one is pending. -/
theorem Drainable.round (drainable : Drainable agent readings w.memory.state)
    (succeeds : agent.Succeeds) (positive : 1 ≤ agent.config.batchSize)
    (round : Round agent readings w turns w') :
    Progressed agent readings w.memory.state turns w'.memory.state ∧
      (w.memory.state.pendingIds ≠ [] → invocations turns ≠ []) := by
  obtain @⟨order, now, ts, turns, w₁, w₂, w', batch, perm, reading, claimed, executed, finished,
    kept⟩ := round
  obtain ⟨w₁', claimed', rows⟩ :=
    run_claim_seen agent agent.worker agent.config.batchSize w now order
  obtain ⟨ts_eq, rfl⟩ := Prod.mk.inj (claimed.symm.trans claimed')
  have ts_eq := Except.ok.inj ts_eq
  have taken := drainable.claim perm agent.worker agent.config.batchSize now
  have some_taken := drainable.claim_ne_nil perm agent.worker positive reading
  rw [← ts_eq] at taken some_taken
  rw [← rows] at taken
  have handles : agent.Handles w₁.memory.state := by
    intro type known
    exact drainable.handles type (taken.types_eq ▸ known)
  have underway := (underway_batchOf taken.reachable taken.claimed).interleave taken.nodup handles
    succeeds executed
  constructor
  · rw [kept]
    exact taken.progressed drainable underway finished
  · intro pending none
    have invoked := (underway.finished finished).2
    rw [none] at invoked
    exact some_taken pending (List.map_eq_nil_iff.1 invoked.nil_eq.symm)

/-- After a number of rounds at least as many tasks have been executed, or none is pending. -/
theorem progressed_of_rounds (drainable : Drainable agent readings w.memory.state)
    (succeeds : agent.Succeeds) (positive : 1 ≤ agent.config.batchSize)
    (rounds : Rounds agent readings w n turns w') :
    Progressed agent readings w.memory.state turns w'.memory.state ∧
      (w'.memory.state.pendingIds = [] ∨ n ≤ (invocations turns).length) := by
  induction rounds with
  | zero => exact ⟨.refl drainable, .inr (Nat.zero_le _)⟩
  | @succ n turns₁ turns₂ w₁ w₂ before round ih =>
    obtain ⟨first, enough⟩ := ih
    obtain ⟨second, some_executed⟩ := first.drainable.round succeeds positive round
    refine ⟨first.trans second, ?_⟩
    by_cases pending : w₁.memory.state.pendingIds = []
    · -- nothing was pending before the round, so nothing is pending after it
      have none := second.pending
      rw [pending] at none
      exact .inl (List.append_eq_nil_iff.1 none.nil_eq.symm).2
    · -- otherwise the round has executed at least one more task
      have more := List.length_pos_of_ne_nil (some_executed pending)
      have count := enough.resolve_left pending
      rw [invocations_append, List.length_append]
      exact .inr (by omega)

/-! ### The end -/

/-- What is left when no task is pending. -/
structure Drained (agent : Agent P) (s : State) (turns : List Turn) (s' : State) : Prop where
  /-- The same tasks are stored, and all of them are completed. -/
  ids_perm : (s'.tasks.map (·.id)).Perm (s.tasks.map (·.id))
  completed : ∀ t ∈ s'.tasks, t.status = .completed
  /-- The handlers of the tasks that were pending have been called, each of them once. -/
  once : (invocations turns).Perm s.pendingIds ∧ (invocations turns).Nodup
  /-- Each call has run the processor of the task's type on the task, and it has succeeded. -/
  calls : ∀ turn ∈ turns, turn.Calls agent
  /-- When the handler of a task was called, all that the task depends on was completed. -/
  inOrder : ∀ turn ∈ turns, turn.InOrder s.edges

theorem drained_of_rounds (drainable : Drainable agent readings w.memory.state)
    (succeeds : agent.Succeeds) (positive : 1 ≤ agent.config.batchSize)
    (enough : w.memory.state.pendingIds.length ≤ n) (rounds : Rounds agent readings w n turns w') :
    Drained agent w.memory.state turns w'.memory.state := by
  obtain ⟨progressed, executed⟩ := progressed_of_rounds drainable succeeds positive rounds
  have count := progressed.pending.length_eq
  rw [List.length_append] at count
  have none : w'.memory.state.pendingIds = [] := by
    rcases executed with none | executed
    · exact none
    · exact List.eq_nil_of_length_eq_zero (by omega)
  have once : (invocations turns).Perm w.memory.state.pendingIds := by
    have perm := progressed.pending.symm
    rwa [none, List.append_nil] at perm
  refine ⟨progressed.ids_perm, fun t ht => ?_, ⟨once, ?_⟩, progressed.calls, progressed.inOrder⟩
  · rcases progressed.drainable.settled t ht with pending | completed
    · have waits : t.id ∈ w'.memory.state.pendingIds :=
        (State.mem_pendingIds progressed.drainable.keyed).2
          ⟨t, (State.find?_eq_some_iff progressed.drainable.keyed).2 ⟨ht, rfl⟩, pending⟩
      rw [none] at waits
      exact absurd waits List.not_mem_nil
    · exact completed
  · exact once.nodup_iff.2 drainable.keyed.nodup_pendingIds

/-- What is promised of a queue that a single worker drains. -/
structure DrainsInOrder (agent : Agent P) (readings : Timestamp → Prop) (w : World) : Prop where
  /-- As long as a task is pending, a claim of at least one task returns a task. -/
  nonempty : w.memory.state.pendingIds ≠ [] → ∀ worker limit now order, 1 ≤ limit → readings now →
    order.Perm w.memory.state.tasks → ∃ t ts w₁,
      (agent.storage.claim worker limit).run (w.seen now order) = (.ok (t :: ts), w₁)
  /-- Every interleaving of the executions of a claimed batch is finite, and each one that has not
  ended can go on to its end. -/
  ends : (∃ now, readings now) → ∀ w₁ ts turns w₂ batch,
    Interleaving agent readings w₁ (batchOf ts) turns w₂ batch → turns.length ≤ 3 * ts.length ∧
      ∃ turns' w₃ batch', Interleaving agent readings w₂ batch turns' w₃ batch' ∧ batch'.Finished
  /-- A round can be made at any time. -/
  continues : (∃ now, readings now) → ∀ w₁, ∃ turns w₂, Round agent readings w₁ turns w₂
  /-- Rounds drain the queue if there are as many of them as pending tasks. -/
  rounds : ∀ n turns w', w.memory.state.pendingIds.length ≤ n →
    Rounds agent readings w n turns w' → Drained agent w.memory.state turns w'.memory.state
  /-- So does repeating `Worker.runOnce`, if handlers take no time. -/
  repeated : agent.KeepsClock → readings w.clock → ∀ n, w.memory.state.pendingIds.length ≤ n →
    ∃ turns, Rounds agent readings w n turns ((agent.repeatOnce n).run w).2 ∧
      Drained agent w.memory.state turns ((agent.repeatOnce n).run w).2.memory.state

/-- A worker whose handlers succeed drains a queue of due tasks in the order of its edges. -/
theorem drains_in_order (drainable : Drainable agent readings w.memory.state)
    (succeeds : agent.Succeeds) (positive : 1 ≤ agent.config.batchSize) :
    DrainsInOrder agent readings w where
  nonempty pending worker limit now order some_ reading perm := by
    obtain ⟨w₁, claimed, -⟩ := run_claim_seen agent worker limit w now order
    have taken := drainable.claim_ne_nil perm worker some_ reading pending
    obtain ⟨t, ts, batch⟩ := List.exists_cons_of_ne_nil taken
    exact ⟨t, ts, w₁, batch ▸ claimed⟩
  ends reading w₁ ts turns w₂ batch steps :=
    ⟨steps.length_le, Interleaving.exists_end agent reading w₂ batch⟩
  continues reading w₁ := exists_round agent reading w₁
  rounds n turns w' enough rounds :=
    drained_of_rounds drainable succeeds positive enough rounds
  repeated keeps reading n enough := by
    obtain ⟨turns, rounds⟩ := rounds_of_repeatOnce keeps reading n
    exact ⟨turns, rounds, drained_of_rounds drainable succeeds positive enough rounds⟩

/-- A worker whose only handler succeeds. -/
def mailAgent : Agent Unit where
  policy := {}
  worker := "a"
  config := { batchSize := 2 }
  processors := ⟨[("mail", ())]⟩
  process _ _ := return .succeeded

/-- A chain of three tasks, of which only one at a time can be claimed. -/
def chainWorld : World where
  storage := .memory
  policy := {}
  clock := .epoch
  memory := { state := (Memory.replay {} {} Memory.linkedCalls).2 }

theorem drains_in_order_of_chain : Drainable mailAgent (· = .epoch) chainWorld.memory.state ∧
    mailAgent.Succeeds ∧ mailAgent.KeepsClock ∧ 1 ≤ mailAgent.config.batchSize ∧
    chainWorld.memory.state.pendingIds = [⟨1⟩, ⟨2⟩, ⟨3⟩] ∧
    ((mailAgent.repeatOnce 2).run chainWorld).2.memory.state.tasks.map (·.status) =
      [.completed, .completed, .pending] ∧
    DrainsInOrder mailAgent (· = .epoch) chainWorld := by
  have run : Run {} {} (Memory.replay {} {} Memory.linkedCalls).1 chainWorld.memory.state :=
    Memory.run_replay (by decide +kernel)
  have drainable : Drainable mailAgent (· = .epoch) chainWorld.memory.state := by
    refine ⟨⟨_, run⟩, ?_, ?_, ?_⟩
    · have settled : ∀ t ∈ chainWorld.memory.state.tasks, t.status = .pending := by decide +kernel
      exact fun t ht => .inl (settled t ht)
    · rintro t ht - _ rfl
      have due : ∀ t ∈ chainWorld.memory.state.tasks, t.scheduledFor ≤ .epoch := by decide +kernel
      exact due t ht
    · show ∀ type ∈ chainWorld.memory.state.types, _
      decide +kernel
  have succeeds : mailAgent.Succeeds := fun _ _ _ _ _ => ⟨rfl, rfl⟩
  exact ⟨drainable, succeeds, fun _ _ _ => rfl, by decide, by decide +kernel,
    by decide +kernel, drains_in_order drainable succeeds (by decide)⟩

end WorkQueue.Worker
