import WorkQueue.Proofs.Database.Records
import WorkQueue.Proofs.Database.Unlogged
import WorkQueue.Proofs.Memory.Unlogged

/-!
# Best effort of the log

Whether the log can be written decides nothing. A program that does not read the log gets the same
results from a storage whose log takes every entry and from one whose log fails as it likes, and
leaves the same behind. In a database, an entry is written only when its transition is stored.

## Main definitions

* `BestEffort`: what is promised of the log

## Main statements

* `best_effort`: both storages keep the promise
-/

namespace WorkQueue

open Simulation Database

/-- What is promised of the log, under every retry policy. -/
structure BestEffort (policy : Backoff.Policy) : Prop where
  /-- In memory, a program returns the same and leaves the same rows for any two logs. Each of them
  has its own entries, and fails at its own accesses. -/
  memory : ∀ {α : Type} (p : Program α) (schedule : Memory.Schedule) (w : World)
    (log log' : Memory.Log),
    let run := fun w => (p.run (Memory.backend policy) schedule.before 0).run w
    (run (Memory.withLog w log)).1 = (run (Memory.withLog w log')).1 ∧
      (run (Memory.withLog w log)).2.memory.state = (run (Memory.withLog w log')).2.memory.state
  /-- In a database that gives the same answers otherwise, a program returns the same and sends the
  same, log entries aside, for any answers to its log entries. -/
  database : ∀ {α : Type} (p : Program α) (answers : Answerer) (sink sink' : LogSink),
    let play := fun sink =>
      (p.run (Database.backend policy) (fun _ => pure ()) 0).play answers sink {}
    (play sink).1 = (play sink').1 ∧ (play sink).2.unlogged = (play sink').2.unlogged
  /-- In a database, whatever it answers, the log entries of an operation come last: after the
  answer that its transitions are stored, one for each task that it returns, in order. -/
  recorded : ∀ (op : Operation) (sent : List Sent) (result : Outcome op.Result),
    (op.run (Database.backend policy)).Path sent result → RecordsLast op sent result

/-- Log entries are written as well as possible, and nothing depends on them. -/
theorem best_effort (policy : Backoff.Policy) : BestEffort policy where
  memory p schedule w log log' := by
    obtain ⟨same, left⟩ := Memory.blind_program policy schedule 0 p _ _
      (Memory.logged_withLog w log log')
    exact ⟨same, left.rows.symm⟩
  database p answers sink sink' := by
    exact (agrees_program policy 0 p).play answers sink sink' rfl rfl
  recorded op sent result path := records_last policy path

end WorkQueue
