import WorkQueue.Proofs.Memory.Operations
import WorkQueue.Worker.Batch

/-!
# Batches in any order of steps

A worker executes the tasks of a batch side by side. Each execution takes at most three steps: start,
handler, outcome. Nothing is assumed about the order in which steps of different executions follow
one another, so whatever holds of all interleavings holds for every number of permits.

## Main definitions

* `Worker.Agent`: a worker with a storage in memory and its processors
* `Worker.Advance`, `Worker.Interleaving`: one step of some execution, and any number of them
* `Worker.Round`, `Worker.Rounds`: batches that are claimed and executed to their end

## Main statements

* `Worker.Interleaving.length_le`, `Worker.Interleaving.exists_end`: every interleaving is short, and
  can be continued to its end
* `Worker.exists_round`: a round can be made from every world
-/

namespace WorkQueue

open Simulation

/-- The world as a claim sees it: at a clock reading, with the rows in an order of visiting them. -/
def Simulation.World.seen (w : World) (now : Timestamp) (order : List Task) : World :=
  (w.withRows (w.memory.state.visiting order)).withClock now

namespace Worker

/-! ### Agents -/

/-- A worker with a storage in memory. -/
structure Agent (P : Type) where
  policy : Backoff.Policy
  worker : String
  config : Settings.Worker
  processors : Processors P
  process : P → Task → Sim HandlerResult

namespace Agent

variable {P : Type}

def storage (agent : Agent P) : Backend Sim := Memory.backend agent.policy

def resolve (agent : Agent P) (taskType : String) : Sim (Outcome P) :=
  return agent.processors.resolve taskType

/-- The next step of an execution. -/
def step (agent : Agent P) : Execution → Sim Execution :=
  Execution.step agent.storage agent.resolve agent.process

end Agent

theorem run_claim_seen {P : Type} (agent : Agent P) (worker : String) (limit : Nat) (w : World)
    (now : Timestamp) (order : List Task) : ∃ w₁,
      (agent.storage.claim worker limit).run (w.seen now order) =
        (.ok ((w.memory.state.visiting order).claim worker limit now).1, w₁) ∧
      w₁.memory.state = ((w.memory.state.visiting order).claim worker limit now).2 := by
  obtain ⟨w₁, claimed, logged⟩ := Memory.run_claim worker limit (w.seen now order)
  exact ⟨w₁, claimed, logged.rows⟩

/-! ### Executions -/

/-- How many steps an execution takes at most. -/
def Execution.remaining : Execution → Nat
  | .claimed _ => 3
  | .started .. => 2
  | .handled .. => 1
  | .finished _ => 0

/-- The task whose handler is called in the next step. -/
def Execution.invoked? : Execution → Option Uuid
  | .started _ t => some t.id
  | _ => none

/-- The executions of a batch, each with the identifier of its task. -/
abbrev Batch := List (Uuid × Execution)

/-- A claimed batch: nothing has been started. -/
def batchOf (ts : List Task) : Batch := ts.map fun t => (t.id, .claimed t.id)

theorem batchOf_eq (ts : List Task) :
    batchOf ts = (ts.map (·.id)).map fun id => (id, .claimed id) := by
  simp [batchOf]

/-- How many steps the executions of a batch take at most. -/
def Batch.remaining : Batch → Nat
  | [] => 0
  | (_, e) :: rest => e.remaining + Batch.remaining rest

/-- All executions have ended. -/
def Batch.Finished (batch : Batch) : Prop := ∀ x ∈ batch, x.2.remaining = 0

instance (batch : Batch) : Decidable batch.Finished :=
  inferInstanceAs (Decidable (∀ x ∈ batch, x.2.remaining = 0))

/-- A step of an execution: the world in which it was made, and the execution before it. -/
structure Turn where
  world : World
  execution : Execution

/-- The tasks whose handlers were called, in order. -/
def invocations (turns : List Turn) : List Uuid := turns.filterMap fun turn => turn.execution.invoked?

variable {P : Type} {agent : Agent P} {readings : Timestamp → Prop} {w w' w₁ w₂ : World}
  {batch batch' batch₁ batch₂ : Batch} {turn : Turn} {turns turns₁ turns₂ : List Turn} {n : Nat}

/-- One step of any execution that has not ended, at any clock reading. -/
inductive Advance (agent : Agent P) (readings : Timestamp → Prop) (w : World) :
    Batch → Turn → World → Batch → Prop
  | intro (before after : Batch) (id : Uuid) (e : Execution) {now : Timestamp}
      (reading : readings now) (unfinished : 0 < e.remaining) :
      Advance agent readings w (before ++ (id, e) :: after) ⟨w.withClock now, e⟩
        ((agent.step e).run (w.withClock now)).2
        (before ++ (id, ((agent.step e).run (w.withClock now)).1) :: after)

/-- Any number of steps of the executions of a batch, in any order. -/
inductive Interleaving (agent : Agent P) (readings : Timestamp → Prop) (w : World) (batch : Batch) :
    List Turn → World → Batch → Prop
  | nil : Interleaving agent readings w batch [] w batch
  | snoc {turns : List Turn} {w₁ w₂ : World} {batch₁ batch₂ : Batch} {turn : Turn}
      (first : Interleaving agent readings w batch turns w₁ batch₁)
      (next : Advance agent readings w₁ batch₁ turn w₂ batch₂) :
      Interleaving agent readings w batch (turns ++ [turn]) w₂ batch₂

theorem Interleaving.trans (first : Interleaving agent readings w batch turns₁ w₁ batch₁)
    (second : Interleaving agent readings w₁ batch₁ turns₂ w₂ batch₂) :
    Interleaving agent readings w batch (turns₁ ++ turns₂) w₂ batch₂ := by
  induction second with
  | nil => rwa [List.append_nil]
  | snoc _ next ih =>
    rw [← List.append_assoc]
    exact .snoc ih next

/-- The executions of a batch are of different tasks. -/
theorem Batch.ne_of_nodup {before after : Batch} {id : Uuid} {e : Execution}
    (nodup : ((before ++ (id, e) :: after).map (·.1)).Nodup) {x : Uuid × Execution}
    (hx : x ∈ before ∨ x ∈ after) : x.1 ≠ id := by
  rw [List.map_append, List.map_cons, List.nodup_middle, ← List.map_append] at nodup
  have inside : x.1 ∈ (before ++ after).map (·.1) :=
    List.mem_map_of_mem (List.mem_append.2 hx)
  rintro rfl
  exact (List.nodup_cons.1 nodup).1 inside

/-! ### Ends -/

theorem Batch.remaining_middle (before after : Batch) (id : Uuid) (e : Execution) :
    Batch.remaining (before ++ (id, e) :: after) =
      before.remaining + e.remaining + after.remaining := by
  induction before with
  | nil => simp [Batch.remaining]
  | cons x before ih => simp only [List.cons_append, Batch.remaining, ih, Nat.add_assoc]

/-- What follows a start: the handler, or nothing. -/
theorem start_cases (b : Backend Sim) (id : Uuid) (w : World) :
    (∃ t, ((Execution.start b id).run w).1 = .started id t) ∨
      ∃ verdict, ((Execution.start b id).run w).1 = .finished verdict := by
  rw [Execution.start, run_bind]
  cases ((b.start id).run w).1 with
  | ok t => exact .inl ⟨t, rfl⟩
  | error failure => exact .inr ⟨.skipped, rfl⟩

/-- Every step of an execution brings it closer to its end. -/
theorem remaining_step_lt (agent : Agent P) {e : Execution} (unfinished : 0 < e.remaining) (w : World) :
    ((agent.step e).run w).1.remaining < e.remaining := by
  cases e with
  | claimed id =>
    rw [Agent.step, Execution.step]
    rcases start_cases agent.storage id w with ⟨t, started⟩ | ⟨verdict, ended⟩
    · simp [started, Execution.remaining]
    · simp [ended, Execution.remaining]
  | started id t => exact Nat.lt_succ_self 1
  | handled id result => exact Nat.lt_succ_self 0
  | finished verdict => exact absurd unfinished (Nat.lt_irrefl 0)

theorem Advance.remaining_lt (next : Advance agent readings w batch turn w' batch') :
    batch'.remaining < batch.remaining := by
  obtain @⟨before, after, id, e, now, reading, unfinished⟩ := next
  have closer := remaining_step_lt agent unfinished (w.withClock now)
  rw [Batch.remaining_middle, Batch.remaining_middle]
  omega

theorem Interleaving.length_add_remaining_le
    (steps : Interleaving agent readings w batch turns w' batch') :
    turns.length + batch'.remaining ≤ batch.remaining := by
  induction steps with
  | nil => simp
  | snoc _ next ih =>
    have closer := next.remaining_lt
    rw [List.length_append, List.length_singleton]
    omega

theorem remaining_batchOf (ts : List Task) : (batchOf ts).remaining = 3 * ts.length := by
  induction ts with
  | nil => rfl
  | cons t ts ih =>
    have split : (batchOf (t :: ts)).remaining = 3 + (batchOf ts).remaining := rfl
    rw [split, ih, List.length_cons]
    omega

theorem Interleaving.length_le {ts : List Task}
    (steps : Interleaving agent readings w (batchOf ts) turns w' batch') :
    turns.length ≤ 3 * ts.length := by
  have bound := steps.length_add_remaining_le
  rw [remaining_batchOf] at bound
  omega

/-- From every point the executions of a batch can go on until all have ended. -/
theorem Interleaving.exists_end (agent : Agent P) (reading : ∃ now, readings now) (w : World) (batch : Batch) :
    ∃ turns w' batch', Interleaving agent readings w batch turns w' batch' ∧ batch'.Finished := by
  induction count : batch.remaining using Nat.strongRecOn generalizing w batch with
  | ind n ih =>
    -- on the number of steps that remain, which every further step lowers
    by_cases finished : batch.Finished
    · exact ⟨[], w, batch, .nil, finished⟩
    · obtain ⟨⟨id, e⟩, he, unfinished⟩ : ∃ x ∈ batch, 0 < x.2.remaining := by
        simpa [Batch.Finished, Nat.pos_iff_ne_zero] using finished
      obtain ⟨before, after, rfl⟩ := List.append_of_mem he
      obtain ⟨now, hnow⟩ := reading
      have next : Advance agent readings w _ _ _ _ := .intro before after id e hnow unfinished
      obtain ⟨turns, w', batch', rest, ended⟩ := ih _ (count ▸ next.remaining_lt) _ _ rfl
      exact ⟨_, w', batch', (Interleaving.nil.snoc next).trans rest, ended⟩

/-! ### Rounds -/

/-- A batch is claimed and executed to its end. Before the claim and after the end anything may
happen that keeps the rows: time passes, and what came of the batch is reported. -/
inductive Round (agent : Agent P) (readings : Timestamp → Prop) (w : World) :
    List Turn → World → Prop
  | intro {order : List Task} {now : Timestamp} {tasks : List Task} {turns : List Turn}
      {w₁ w₂ w' : World} {batch : Batch} (perm : order.Perm w.memory.state.tasks)
      (reading : readings now)
      (claimed : (agent.storage.claim agent.worker agent.config.batchSize).run (w.seen now order) =
        (.ok tasks, w₁))
      (executed : Interleaving agent readings w₁ (batchOf tasks) turns w₂ batch)
      (finished : batch.Finished) (kept : w'.memory.state = w₂.memory.state) :
      Round agent readings w turns w'

/-- A number of rounds, one after the other. -/
inductive Rounds (agent : Agent P) (readings : Timestamp → Prop) (w : World) :
    Nat → List Turn → World → Prop
  | zero : Rounds agent readings w 0 [] w
  | succ {n : Nat} {turns₁ turns₂ : List Turn} {w₁ w₂ : World}
      (before : Rounds agent readings w n turns₁ w₁) (round : Round agent readings w₁ turns₂ w₂) :
      Rounds agent readings w (n + 1) (turns₁ ++ turns₂) w₂

theorem exists_round (agent : Agent P) (reading : ∃ now, readings now) (w : World) :
    ∃ turns w', Round agent readings w turns w' := by
  obtain ⟨now, hnow⟩ := reading
  obtain ⟨w₁, claimed, -⟩ := Memory.run_claim agent.worker agent.config.batchSize
    (w.seen now w.memory.state.tasks)
  obtain ⟨turns, w₂, batch, executed, finished⟩ := Interleaving.exists_end agent
    ⟨now, hnow⟩ w₁ (batchOf _)
  exact ⟨turns, w₂, .intro (List.Perm.refl _) hnow claimed executed finished rfl⟩

end Worker

end WorkQueue
