import WorkQueue.Proofs.Memory.Atomicity
import WorkQueue.Proofs.Storage.Programs

/-!
# Independence of the log in memory

A computation is blind to the log if it returns the same result in worlds that differ only in what
was logged and reported, and leaves such worlds behind. Sequencing keeps blindness, and writing to
the log is blind although it may fail, since its failure is reported and nothing else. So every
operation is blind, and every program.

## Main definitions

* `Memory.Blind`: the result and the rows do not depend on the log

## Main statements

* `Memory.blind_operation`, `Memory.blind_program`: operations and programs are blind
-/

namespace WorkQueue.Memory

open Simulation

variable {α β : Type} {policy : Backoff.Policy} {w w' : World}

/-- The log of a world replaced by another one, with its own entries and its own failures. -/
def withLog (w : World) (log : Log) : World := { w with memory := { w.memory with log := log } }

theorem logged_withLog (w : World) (log log' : Log) : (withLog w log).Logged (withLog w log') :=
  ⟨log', w.events, rfl⟩

/-- The result does not depend on the log, and neither does anything left behind but the log and
what is reported. -/
def Blind (x : Sim α) : Prop :=
  ∀ w w', w.Logged w' → (x.run w).1 = (x.run w').1 ∧ (x.run w).2.Logged (x.run w').2

/-! ### Rules -/

theorem blind_pure (a : α) : Blind (pure a : Sim α) := by
  intro w w' h
  exact ⟨rfl, h⟩

theorem Blind.bind {x : Sim α} {f : α → Sim β} (hx : Blind x) (hf : ∀ a, Blind (f a)) :
    Blind (x >>= f) := by
  intro w w' h
  obtain ⟨same, left⟩ := hx w w' h
  rw [run_bind, run_bind, ← same]
  exact hf _ _ _ left

/-- What only logs and reports is blind if it returns nothing. -/
theorem blind_of_logged {x : Sim Unit} (logged : ∀ w : World, w.Logged (x.run w).2) : Blind x := by
  intro w w' h
  exact ⟨rfl, (logged w).symm.trans (h.trans (logged w'))⟩

theorem blind_rows : Blind (rows : Sim State) := by
  intro w w' h
  exact ⟨h.rows.symm, h⟩

theorem blind_setRows (s : State) : Blind (setRows s : Sim Unit) := by
  rintro w w' ⟨log, events, rfl⟩
  exact ⟨rfl, log, events, rfl⟩

theorem blind_now : Blind (Host.now : Sim Timestamp) := by
  intro w w' h
  exact ⟨h.clock.symm, h⟩

theorem blind_freshId : Blind (Host.freshId : Sim Uuid) := by
  rintro w w' ⟨log, events, rfl⟩
  exact ⟨rfl, log, events, rfl⟩

theorem blind_report (level : Telemetry.Level) (source message : String)
    (fields : List (String × Telemetry.Value)) :
    Blind (Host.report level source message fields : Sim Unit) :=
  blind_of_logged (logged_report level source message fields)

theorem blind_appendLog (entry : NewLogEntry) : Blind (appendLog writeLog entry : Sim Unit) :=
  blind_of_logged (logged_appendLog entry)

theorem blind_recordTransition (transition : Transition) (t : Task) :
    Blind (recordTransition writeLog transition t : Sim Unit) :=
  blind_of_logged (logged_recordTransition transition t)

/-! ### Operations -/

theorem blind_read (f : State → α) : Blind (do return f (← rows) : Sim α) :=
  blind_rows.bind fun _ => blind_pure _

theorem blind_perform (update : Timestamp → Update α) :
    Blind (perform update : Sim (Outcome α)) :=
  blind_now.bind fun _ => blind_rows.bind fun _ => (blind_setRows _).bind fun _ => blind_pure _

theorem blind_performTransition (transition : Transition) (update : Timestamp → Update Task) :
    Blind (performTransition transition update : Sim (Outcome Task)) := by
  refine (blind_perform update).bind fun outcome => ?_
  cases outcome with
  | error failure => exact blind_pure _
  | ok t => exact (blind_recordTransition transition t).bind fun _ => blind_pure _

theorem blind_enqueue (spec : NewTask) : Blind (enqueue spec : Sim (Outcome Task)) := by
  refine blind_rows.bind fun s => ?_
  cases s.prepare spec with
  | error failure => exact blind_pure _
  | ok checked =>
    refine blind_freshId.bind fun id => (blind_perform _).bind fun outcome => ?_
    cases outcome with
    | error failure => exact blind_pure _
    | ok t => exact (blind_report _ _ _ _).bind fun _ => blind_pure _

theorem blind_drawIds (specs : List NewTask) :
    Blind (specs.mapM fun _ => (Host.freshId : Sim Uuid)) := by
  induction specs with
  | nil => exact blind_pure _
  | cons spec specs ih =>
    rw [List.mapM_cons]
    exact blind_freshId.bind fun id => ih.bind fun ids => blind_pure _

theorem blind_createChain (specs : List NewTask) :
    Blind (createChain specs : Sim (Outcome (List Task))) := by
  refine blind_rows.bind fun s => ?_
  cases specs.mapM s.prepare with
  | error failure => exact blind_pure _
  | ok checked => exact (blind_drawIds specs).bind fun ids => blind_perform _

theorem blind_claim (worker : String) (limit : Nat) :
    Blind (claim worker limit : Sim (Outcome (List Task))) := by
  refine blind_now.bind fun now => blind_rows.bind fun s => (blind_setRows _).bind fun _ => ?_
  exact (blind_of_logged (logged_recordClaims _)).bind fun _ => blind_pure _

/-- No operation sees whether the log could be written. -/
theorem blind_operation (policy : Backoff.Policy) (op : Operation) :
    Blind (op.run (backend policy : Backend Sim)) := by
  cases op with
  | enqueue spec => exact blind_enqueue spec
  | createChain specs => exact blind_createChain specs
  | claim worker limit => exact blind_claim worker limit
  | start | complete | fail | cancel => exact blind_performTransition _ _
  | upsertType | addDependency => exact blind_perform _
  | find | list | metrics | findType | listTypes | dependenciesOf | isSatisfied =>
    exact blind_read _

/-! ### Programs -/

/-- The time at which each step of a program is made, and the order in which it visits rows. -/
structure Schedule where
  time : Nat → Timestamp
  order : Nat → List Task → List Task

/-- Time passes until a step is made, and the rows come into another order. -/
def Schedule.before (schedule : Schedule) (n : Nat) : Sim Unit := modifyThe World fun w =>
  { w with
    clock := schedule.time n
    memory := { w.memory with
      state := w.memory.state.visiting (schedule.order n w.memory.state.tasks) } }

theorem Schedule.blind_before (schedule : Schedule) (n : Nat) : Blind (schedule.before n) := by
  rintro w w' ⟨log, events, rfl⟩
  exact ⟨rfl, log, events, rfl⟩

/-- No program sees whether the log could be written. -/
theorem blind_program (policy : Backoff.Policy) (schedule : Schedule) (n : Nat) (p : Program α) :
    Blind (p.run (backend policy) schedule.before n) := by
  induction p generalizing n with
  | done result => exact blind_pure result
  | call op next ih =>
    exact (schedule.blind_before n).bind fun _ =>
      (blind_operation policy op).bind fun outcome => ih outcome (n + 1)
  | append entry next ih =>
    exact (schedule.blind_before n).bind fun _ =>
      (blind_appendLog entry).bind fun _ => ih (n + 1)

end WorkQueue.Memory
