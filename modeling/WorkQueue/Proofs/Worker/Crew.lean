import WorkQueue.Proofs.Memory.Run
import WorkQueue.Proofs.Worker.Requests
import WorkQueue.Proofs.Worker.Sequential
import Mathlib.Logic.Relation

/-!
# Several workers on one storage

Any number of batches are claimed and executed at once, by any workers, while other callers enqueue,
link, cancel and register. Each call of the storage is one step, and steps follow one another in any
order. A ledger keeps all calls with their replies, and for each one the tasks that were in flight
when it was made.

## Main definitions

* `Worker.Assignment`, `Worker.Entry`: a batch of a worker, and one execution of it
* `Worker.Crew`: the batches in progress and those that have ended, on the rows of a world
* `Worker.Crew.Step`, `Worker.Crew.Reachable`: one step, and what any number of steps lead to

## Main statements

* `Worker.Crew.steps_of_interleaving`: interleavings of one batch are steps of a crew
* `Worker.Crew.steps_of_executeAll`, `steps_of_runOnce`: so are the loops that execute a batch, and
  they return its counts

## Design notes

A handler may call the storage, too. Such calls are those of another caller here, interleaved like
all others; the step that ends the handler leaves the rows alone.
-/

namespace WorkQueue

open Simulation
open Memory (Call Exchange)

/-- A call that others than workers make. -/
def Memory.Call.External : Call → Prop
  | .enqueue .. | .createChain .. | .addDependency .. | .upsertType .. | .cancel .. => True
  | .claim .. | .start .. | .complete .. | .fail .. => False

namespace Worker

variable {policy : Backoff.Policy} {P : Type} {agent : Agent P}

/-- A claimed batch, with the name under which it was claimed. -/
structure Assignment where
  worker : String
  batch : Batch

/-- One execution of a batch. -/
structure Entry where
  worker : String
  id : Uuid
  execution : Execution

def Assignment.entries (a : Assignment) : List Entry :=
  a.batch.map fun x => ⟨a.worker, x.1, x.2⟩

/-- The tasks in flight: claimed, and their outcome not yet recorded. -/
def inFlight (entries : List Entry) : List Uuid :=
  (entries.filter fun x => 0 < x.execution.remaining).map (·.id)

/-- A served call, and the tasks that were in flight when it was made. -/
structure Served where
  exchange : Exchange
  inFlight : List Uuid

/-- Batches on the rows of a world. -/
structure Crew where
  world : World
  /-- Batches in progress. -/
  assignments : List Assignment := []
  /-- Batches whose counts have been returned. -/
  returned : List Assignment := []
  /-- All calls so far, in order. -/
  ledger : List Served := []

namespace Crew

/-- The executions of the batches in progress. -/
def entries (c : Crew) : List Entry := c.assignments.flatMap (·.entries)

def inFlight (c : Crew) : List Uuid := Worker.inFlight c.entries

/-- The counts that have been returned. -/
def tallies (c : Crew) : List Tally := c.returned.map (·.batch.tally)

/-- The ledger after another call. -/
def noted (c : Crew) (x : Exchange) : List Served := c.ledger ++ [⟨x, c.inFlight⟩]

end Crew

/-- The call that a step of an execution makes, with its reply. -/
def Turn.exchange? (policy : Backoff.Policy) (turn : Turn) : Option Exchange :=
  (turn.execution.call? turn.world.clock).map fun call =>
    ⟨call, (turn.world.memory.state.serve policy call).1⟩

/-- One step of one of the parties. Whoever makes it, all of the world that is not rows may be
different afterwards. -/
inductive Crew.Step (policy : Backoff.Policy) (c : Crew) : Crew → Prop
  /-- Another caller is served. -/
  | call {x : Exchange} {w : World}
      (step : Memory.Step policy c.world.memory.state x w.memory.state)
      (external : x.call.External) :
      Step policy c { c with world := w, ledger := c.noted x }
  /-- A worker claims a batch. -/
  | claim {P : Type} (agent : Agent P) (policy_eq : agent.policy = policy) {order : List Task}
      {now : Timestamp} {tasks : List Task} {w : World}
      (perm : order.Perm c.world.memory.state.tasks)
      (claimed : (agent.storage.claim agent.worker agent.config.batchSize).run
        (c.world.seen now order) = (.ok tasks, w)) :
      Step policy c { c with
        world := w
        assignments := c.assignments ++ [⟨agent.worker, batchOf tasks⟩]
        ledger := c.noted ⟨.claim agent.worker agent.config.batchSize now, .tasks tasks⟩ }
  /-- An execution of a batch goes on. -/
  | advance {P : Type} (agent : Agent P) (policy_eq : agent.policy = policy)
      (keeps : agent.KeepsRows) {before after : List Assignment} {batch batch' : Batch}
      {turn : Turn} {w : World}
      (here : c.assignments = before ++ ⟨agent.worker, batch⟩ :: after)
      (next : Advance agent (fun _ => True) c.world batch turn w batch') :
      Step policy c { c with
        world := w
        assignments := before ++ ⟨agent.worker, batch'⟩ :: after
        ledger := (turn.exchange? policy).elim c.ledger c.noted }
  /-- All executions of a batch have ended, and its counts are returned. -/
  | finish {before after : List Assignment} {a : Assignment}
      (here : c.assignments = before ++ a :: after) (finished : a.batch.Finished) :
      Step policy c { c with assignments := before ++ after, returned := c.returned ++ [a] }
  /-- Something happens that is no call of the storage. -/
  | idle {w : World} (kept : w.memory.state = c.world.memory.state) :
      Step policy c { c with world := w }

/-- Any number of steps. -/
abbrev Crew.Steps (policy : Backoff.Policy) : Crew → Crew → Prop :=
  Relation.ReflTransGen (Crew.Step policy)

/-- Crews that began with an empty storage. -/
def Crew.Reachable (policy : Backoff.Policy) (c : Crew) : Prop :=
  ∃ w : World, w.memory.state = {} ∧ Crew.Steps policy { world := w } c

namespace Crew

/-! ### Steps from what is called -/

/-- Calls of others, served one after the other. -/
theorem steps_of_replay (c : Crew) (calls : List Call) (external : ∀ call ∈ calls, call.External)
    (admissible : Memory.AdmissibleFrom policy c.world.memory.state calls) :
    ∃ ledger, Steps policy c { c with
      world := c.world.withRows (Memory.replay policy c.world.memory.state calls).2
      ledger := ledger } := by
  induction calls generalizing c with
  | nil => exact ⟨c.ledger, .refl⟩
  | cons call calls ih =>
    have first : Step policy c _ := .call
      (w := c.world.withRows (c.world.memory.state.serve policy call).2)
      (.of_serve rfl admissible.1) (external call List.mem_cons_self)
    obtain ⟨ledger, rest⟩ := ih
      { c with
        world := c.world.withRows (c.world.memory.state.serve policy call).2
        ledger := c.noted ⟨call, (c.world.memory.state.serve policy call).1⟩ }
      (fun later hlater => external later (List.mem_cons_of_mem _ hlater)) admissible.2
    exact ⟨ledger, rest.head first⟩

theorem steps_of_claim (c : Crew) (agent : Agent P) (policy_eq : agent.policy = policy) :
    ∃ ledger, Steps policy c { c with
      world := ((agent.storage.claim agent.worker agent.config.batchSize).run c.world).2
      assignments := c.assignments ++ [⟨agent.worker, batchOf
        (c.world.memory.state.claim agent.worker agent.config.batchSize c.world.clock).1⟩]
      ledger := ledger } := by
  obtain ⟨w, claimed, -⟩ := Memory.run_claim agent.worker agent.config.batchSize c.world
  have claimed : (agent.storage.claim agent.worker agent.config.batchSize).run c.world =
    (.ok (c.world.memory.state.claim agent.worker agent.config.batchSize c.world.clock).1, w) :=
    claimed
  rw [claimed]
  have step : Step policy c _ := .claim agent policy_eq (List.Perm.refl _)
    (show (agent.storage.claim agent.worker agent.config.batchSize).run
      (c.world.seen c.world.clock c.world.memory.state.tasks) = _ from claimed)
  exact ⟨_, .single step⟩

/-- Steps of the executions of one batch are steps of the crew. -/
theorem steps_of_interleaving (c : Crew) (policy_eq : agent.policy = policy)
    (keeps : agent.KeepsRows) {before after : List Assignment} {batch batch' : Batch}
    {turns : List Turn} {w : World}
    (here : c.assignments = before ++ ⟨agent.worker, batch⟩ :: after)
    (steps : Interleaving agent (fun _ => True) c.world batch turns w batch') :
    ∃ ledger, Steps policy c { c with
      world := w
      assignments := before ++ ⟨agent.worker, batch'⟩ :: after
      ledger := ledger } := by
  induction steps with
  | nil =>
    refine ⟨c.ledger, ?_⟩
    rw [← here]
  | @snoc turns w₁ w₂ batch₁ batch₂ turn first next ih =>
    obtain ⟨ledger, before_⟩ := ih
    have step : Step policy _ _ := .advance
      (c := { c with
        world := w₁, assignments := before ++ ⟨agent.worker, batch₁⟩ :: after, ledger := ledger })
      agent policy_eq keeps rfl next
    exact ⟨_, before_.tail step⟩

/-- A batch is executed to its end, and its counts are returned. -/
theorem steps_of_finished (c : Crew) (policy_eq : agent.policy = policy) (keeps : agent.KeepsRows)
    {before after : List Assignment} {batch batch' : Batch} {turns : List Turn} {w : World}
    (here : c.assignments = before ++ ⟨agent.worker, batch⟩ :: after)
    (steps : Interleaving agent (fun _ => True) c.world batch turns w batch')
    (finished : batch'.Finished) :
    ∃ ledger, Steps policy c { c with
      world := w
      assignments := before ++ after
      returned := c.returned ++ [⟨agent.worker, batch'⟩]
      ledger := ledger } := by
  obtain ⟨ledger, steps⟩ := steps_of_interleaving c policy_eq keeps here steps
  have last : Step policy _ _ := .finish
    (c := { c with
      world := w, assignments := before ++ ⟨agent.worker, batch'⟩ :: after, ledger := ledger })
    rfl finished
  exact ⟨ledger, steps.tail last⟩

/-- A batch is executed one task after the other. -/
theorem steps_of_executeAll (c : Crew) (agent : Agent P) (policy_eq : agent.policy = policy)
    (keeps : agent.KeepsRows) (keepsClock : agent.KeepsClock) {before after : List Assignment}
    {ts : List Task} (here : c.assignments = before ++ ⟨agent.worker, batchOf ts⟩ :: after) :
    ∃ a ledger,
      a.batch.tally = ((executeAll agent.execute ts { claimed := ts.length }).run c.world).1 ∧
      Steps policy c { c with
        world := ((executeAll agent.execute ts { claimed := ts.length }).run c.world).2
        assignments := before ++ after
        returned := c.returned ++ [a]
        ledger := ledger } := by
  obtain ⟨turns, batch, executed, finished, length_eq, counted⟩ :=
    @interleaving_executeAll P agent (fun _ => True) c.world keepsClock trivial [] ts
      { claimed := ts.length }
  obtain ⟨ledger, steps⟩ := steps_of_finished c policy_eq keeps here executed finished
  refine ⟨⟨agent.worker, batch⟩, ledger, ?_, steps⟩
  rw [counted, Batch.tally, length_eq]

/-- `Worker.runOnce`, undisturbed by others, is a sequence of steps that returns the counts of its
batch. -/
theorem steps_of_runOnce (c : Crew) (agent : Agent P) (policy_eq : agent.policy = policy)
    (keeps : agent.KeepsRows) (keepsClock : agent.KeepsClock) :
    ∃ a ledger, a.worker = agent.worker ∧
      (agent.runOnce.run c.world).1 = .ok a.batch.tally ∧
      Steps policy c { c with
        world := (agent.runOnce.run c.world).2
        returned := c.returned ++ [a]
        ledger := ledger } := by
  obtain ⟨ts, turns, w₁, w₂, batch, claimed, executed, finished, result, kept⟩ :=
    @runOnce_cases P agent (fun _ => True) c.world keepsClock trivial
  have first : Step policy c _ := .claim agent policy_eq (List.Perm.refl _)
    (show (agent.storage.claim agent.worker agent.config.batchSize).run
      (c.world.seen c.world.clock c.world.memory.state.tasks) = _ from claimed)
  obtain ⟨ledger, steps⟩ := steps_of_finished
    { c with
      world := w₁
      assignments := c.assignments ++ [⟨agent.worker, batchOf ts⟩]
      ledger := c.noted ⟨.claim agent.worker agent.config.batchSize c.world.clock, .tasks ts⟩ }
    policy_eq keeps rfl executed finished
  rw [List.append_nil] at steps
  have last : Step policy _ _ := .idle
    (c := { c with
      world := w₂, returned := c.returned ++ [⟨agent.worker, batch⟩], ledger := ledger })
    (congrArg Memory.state kept)
  exact ⟨⟨agent.worker, batch⟩, ledger, rfl, result, (steps.head first).tail last⟩

end Crew

end Worker

end WorkQueue
