import WorkQueue.Proofs.Worker.Interleaving

/-!
# Batches one task after the other

`Worker.runOnce` executes the tasks of a batch one after the other. This is one of the orders in
which the steps of their executions can follow one another, so it makes a round.

## Main definitions

* `Worker.Agent.runOnce`, `Worker.Agent.repeatOnce`: one batch of an agent, and several
* `Worker.KeepsClock`: a computation that leaves the time as it is

## Main statements

* `Worker.interleaving_execute`: an execution without interruption
* `Worker.round_of_runOnce`, `Worker.rounds_of_repeatOnce`: batches are rounds
-/

namespace WorkQueue.Worker

open Simulation

variable {P : Type} {agent : Agent P} {readings : Timestamp → Prop} {w : World}

namespace Agent

/-- All steps of an execution. -/
def execute (agent : Agent P) : Uuid → Sim Verdict :=
  Worker.execute agent.storage agent.resolve agent.process

/-- Claims a batch and executes its tasks one after the other. -/
def runOnce (agent : Agent P) : Sim (Outcome Tally) :=
  Worker.runOnce agent.storage agent.execute agent.worker agent.config

/-- Claims and executes a number of batches. -/
def repeatOnce (agent : Agent P) : Nat → Sim Unit
  | 0 => pure ()
  | n + 1 => do
    agent.repeatOnce n
    let _ ← agent.runOnce

end Agent

/-! ### Time -/

/-- A computation that leaves the time as it is. -/
def KeepsClock {α : Type} (x : Sim α) : Prop := ∀ w, (x.run w).2.clock = w.clock

namespace KeepsClock

variable {α β : Type}

theorem pure (a : α) : KeepsClock (Pure.pure a : Sim α) := fun _ => rfl

theorem bind {x : Sim α} {f : α → Sim β} (first : KeepsClock x) (rest : ∀ a, KeepsClock (f a)) :
    KeepsClock (x >>= f) := by
  intro w
  rw [run_bind]
  exact (rest _ _).trans (first w)

theorem ite {condition : Prop} [Decidable condition] {x y : Sim α} (first : KeepsClock x)
    (second : KeepsClock y) : KeepsClock (if condition then x else y) := by
  split
  · exact first
  · exact second

theorem report (level : Telemetry.Level) (source message : String)
    (fields : List (String × Telemetry.Value)) :
    KeepsClock (Host.report level source message fields : Sim Unit) := fun _ => rfl

theorem performTransition (transition : Transition) (update : Timestamp → Memory.Update Task) :
    KeepsClock (Memory.performTransition transition update : Sim (Outcome Task)) := by
  intro w
  rw [Memory.run_performTransition]
  cases (update w.clock).on w.memory.state with
  | mk outcome s =>
    cases outcome with
    | error failure => rfl
    | ok t => exact (Memory.logged_recordTransition _ _ _).clock

theorem claim (worker : String) (limit : Nat) :
    KeepsClock (Memory.claim worker limit : Sim (Outcome (List Task))) := by
  intro w
  obtain ⟨w', run, logged⟩ := Memory.run_claim worker limit w
  rw [run]
  exact logged.clock

end KeepsClock

/-- Handlers take no time that the clock shows. -/
def Agent.KeepsClock (agent : Agent P) : Prop := ∀ p t, Worker.KeepsClock (agent.process p t)

theorem keepsClock_start (agent : Agent P) (id : Uuid) :
    KeepsClock (Execution.start agent.storage id) := by
  refine .bind (.performTransition _ _) fun outcome => ?_
  cases outcome with
  | ok t => exact .pure _
  | error failure => exact .bind (.report _ _ _ _) fun _ => .pure _

theorem keepsClock_reportDropped (id : Uuid) (operation : String) (failure : Failure) :
    KeepsClock (reportDropped id operation failure : Sim Unit) :=
  .ite (.report _ _ _ _) (.report _ _ _ _)

theorem keepsClock_conclude (agent : Agent P) (id : Uuid) (result : Outcome Unit) :
    KeepsClock (Execution.conclude agent.storage id result) := by
  cases result with
  | ok _ =>
    refine .bind (.performTransition _ _) fun outcome => ?_
    cases outcome with
    | ok t => exact .bind (.report _ _ _ _) fun _ => .pure _
    | error failure => exact .bind (keepsClock_reportDropped _ _ _) fun _ => .pure _
  | error failure =>
    refine .bind (.performTransition _ _) fun outcome => ?_
    cases outcome with
    | ok t =>
      exact .ite (.bind (.report _ _ _ _) fun _ => .pure _)
        (.bind (.report _ _ _ _) fun _ => .pure _)
    | error failure' => exact .bind (keepsClock_reportDropped _ _ _) fun _ => .pure _

theorem keepsClock_handle (keeps : agent.KeepsClock) (t : Task) :
    KeepsClock (Execution.handle agent.resolve agent.process t) := by
  refine .bind (.pure _) fun outcome => ?_
  cases outcome with
  | ok p => exact .bind (keeps p t) fun _ => .pure _
  | error failure => exact .pure _

theorem keepsClock_execute (keeps : agent.KeepsClock) (id : Uuid) :
    KeepsClock (agent.execute id) := by
  refine .bind (keepsClock_start agent id) fun e => ?_
  cases e with
  | started id t => exact .bind (keepsClock_handle keeps t) fun _ => keepsClock_conclude agent _ _
  | finished verdict => exact .pure _
  | claimed | handled => exact .pure _

theorem keepsClock_executeAll (keeps : agent.KeepsClock) (ts : List Task) (tally : Tally) :
    KeepsClock (executeAll agent.execute ts tally) := by
  induction ts generalizing tally with
  | nil => exact .pure _
  | cons t ts ih => exact .bind (keepsClock_execute keeps t.id) fun verdict => ih _

theorem keepsClock_runOnce (keeps : agent.KeepsClock) : KeepsClock agent.runOnce := by
  refine .bind (.claim _ _) fun outcome => ?_
  match outcome with
  | .error failure => exact .pure _
  | .ok [] => exact .pure _
  | .ok (t :: ts) =>
    exact .bind (keepsClock_executeAll keeps _ _) fun tally =>
      .bind (.report _ _ _ _) fun _ => .pure _

theorem keepsClock_repeatOnce (keeps : agent.KeepsClock) (n : Nat) :
    KeepsClock (agent.repeatOnce n) := by
  induction n with
  | zero => exact .pure _
  | succ n ih => exact .bind ih fun _ => .bind (keepsClock_runOnce keeps) fun _ => .pure _

/-! ### Rounds -/

/-- The steps of one execution, while the others stand still. -/
theorem interleaving_execute (keeps : agent.KeepsClock) (reading : readings w.clock)
    (before after : Batch) (id : Uuid) : ∃ turns, Interleaving agent readings w
      (before ++ (id, .claimed id) :: after) turns ((agent.execute id).run w).2
      (before ++ (id, .finished ((agent.execute id).run w).1) :: after) := by
  -- any step, made at the time that the clock shows
  have here : ∀ w₁ : World, w₁.clock = w.clock → ∀ e : Execution, 0 < e.remaining →
      Advance agent readings w₁ (before ++ (id, e) :: after) ⟨w₁, e⟩ ((agent.step e).run w₁).2
        (before ++ (id, ((agent.step e).run w₁).1) :: after) := by
    intro w₁ clock e unfinished
    exact .intro before after id e (clock ▸ reading) unfinished
  have first := Interleaving.nil.snoc (here w rfl (.claimed id) (Nat.succ_pos 2))
  have clock₁ := keepsClock_start agent id w
  change Interleaving _ _ _ _ _ ((Execution.start agent.storage id).run w).2
    (before ++ (id, ((Execution.start agent.storage id).run w).1) :: after) at first
  rw [Agent.execute, execute, run_bind]
  rcases start_cases agent.storage id w with ⟨t, started⟩ | ⟨verdict, ended⟩
  · rw [started] at first ⊢
    -- the start was the first of three steps
    have second := first.snoc (here _ clock₁ (.started id t) (Nat.succ_pos 1))
    have clock₂ := (keepsClock_handle keeps t _).trans clock₁
    exact ⟨_, second.snoc (here _ clock₂ (.handled id _) (Nat.succ_pos 0))⟩
  · rw [ended] at first ⊢
    exact ⟨_, first⟩

/-- Counts the verdicts of a batch, beginning with the given counts. -/
def Batch.countInto (tally : Tally) : Batch → Tally
  | [] => tally
  | (_, .finished verdict) :: rest => Batch.countInto (tally.add verdict) rest
  | _ :: rest => Batch.countInto tally rest

/-- The counts of a batch. -/
def Batch.tally (batch : Batch) : Tally := batch.countInto { claimed := batch.length }

theorem interleaving_executeAll (keeps : agent.KeepsClock) (reading : readings w.clock)
    (done : Batch) (ts : List Task) (tally : Tally) :
    ∃ turns batch, Interleaving agent readings w (done ++ batchOf ts) turns
      ((executeAll agent.execute ts tally).run w).2 (done ++ batch) ∧ batch.Finished ∧
      batch.length = ts.length ∧
      ((executeAll agent.execute ts tally).run w).1 = batch.countInto tally := by
  induction ts generalizing w done tally with
  | nil => exact ⟨[], [], .nil, fun _ h => absurd h List.not_mem_nil, rfl, rfl⟩
  | cons t ts ih =>
    obtain ⟨turns, first⟩ := interleaving_execute keeps reading done (batchOf ts) t.id
    have clock := keepsClock_execute keeps t.id w
    rw [executeAll, run_bind]
    generalize (agent.execute t.id).run w = executed at first clock ⊢
    obtain ⟨turns', batch, rest, finished, length_eq, counted⟩ :=
      ih (clock ▸ reading) (done ++ [(t.id, .finished executed.1)]) (tally.add executed.1)
    rw [List.append_assoc, List.append_assoc] at rest
    refine ⟨_, (t.id, .finished executed.1) :: batch, first.trans rest, fun x hx => ?_, ?_, counted⟩
    · rcases List.mem_cons.1 hx with rfl | hx
      · rfl
      · exact finished x hx
    · rw [List.length_cons, List.length_cons, length_eq]

/-- What `Agent.runOnce` does: it claims a batch, executes it to its end, and returns its counts. -/
theorem runOnce_cases (keeps : agent.KeepsClock) (reading : readings w.clock) :
    ∃ ts turns w₁ w₂ batch,
      (agent.storage.claim agent.worker agent.config.batchSize).run w = (.ok ts, w₁) ∧
      Interleaving agent readings w₁ (batchOf ts) turns w₂ batch ∧ batch.Finished ∧
      (agent.runOnce.run w).1 = .ok batch.tally ∧
      (agent.runOnce.run w).2.memory = w₂.memory := by
  obtain ⟨w₁, claimed, logged⟩ := Memory.run_claim agent.worker agent.config.batchSize w
  generalize (w.memory.state.claim agent.worker agent.config.batchSize w.clock).1 = ts at claimed
  have claimed : (agent.storage.claim agent.worker agent.config.batchSize).run w = (.ok ts, w₁) :=
    claimed
  have reading₁ : readings w₁.clock := logged.clock ▸ reading
  obtain ⟨turns, batch, executed, finished, length_eq, counted⟩ :=
    interleaving_executeAll keeps reading₁ [] ts { claimed := ts.length }
  refine ⟨ts, turns, w₁, _, batch, claimed, executed, finished, ?_⟩
  rw [Batch.tally, length_eq, ← counted, Agent.runOnce, runOnce, run_bind, claimed]
  cases ts with
  | nil => exact ⟨rfl, rfl⟩
  | cons t ts => exact ⟨rfl, rfl⟩

theorem round_of_runOnce (keeps : agent.KeepsClock) (reading : readings w.clock) :
    ∃ turns, Round agent readings w turns (agent.runOnce.run w).2 := by
  obtain ⟨ts, turns, w₁, w₂, batch, claimed, executed, finished, -, kept⟩ :=
    runOnce_cases keeps reading
  exact ⟨turns, .intro (List.Perm.refl _) reading claimed executed finished
    (congrArg Memory.state kept)⟩

theorem rounds_of_repeatOnce (keeps : agent.KeepsClock) (reading : readings w.clock) (n : Nat) :
    ∃ turns, Rounds agent readings w n turns ((agent.repeatOnce n).run w).2 := by
  induction n with
  | zero => exact ⟨[], .zero⟩
  | succ n ih =>
    obtain ⟨turns, before⟩ := ih
    have clock := keepsClock_repeatOnce keeps n w
    obtain ⟨turns', round⟩ := round_of_runOnce keeps (clock ▸ reading)
    exact ⟨turns ++ turns', before.succ round⟩

end WorkQueue.Worker
