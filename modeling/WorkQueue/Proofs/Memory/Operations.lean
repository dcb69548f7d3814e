import WorkQueue.Proofs.Memory.Calls
import WorkQueue.Simulation.World

/-!
# Operations of a storage in memory

What each storage operation returns in a world and what it leaves there. An operation is one update of
the rows at the world's clock; the telemetry and the log entries that follow touch neither.

## Main definitions

* `Simulation.World.withRows`, `Simulation.World.withClock`: a world with other rows or another time
* `Simulation.World.Logged`: worlds that differ in what was logged and reported

## Main statements

* `Memory.run_perform`, `Memory.run_performTransition`: operations replace the rows by those that
  their update leaves
* `Memory.logged_recordTransition`, `Memory.run_claim`: log entries keep the rows
-/

namespace WorkQueue

namespace Simulation

/-- Running two computations one after the other. -/
theorem run_bind {α β : Type} (x : Sim α) (f : α → Sim β) (w : World) :
    (x >>= f).run w = (f (x.run w).1).run (x.run w).2 := rfl

namespace World

variable {w w₁ w₂ : World}

/-- The world with other rows. -/
def withRows (w : World) (s : Memory.State) : World :=
  { w with memory := { w.memory with state := s } }

@[simp] theorem withRows_state (w : World) (s : Memory.State) :
    (w.withRows s).memory.state = s := rfl

/-- The world at another time. -/
def withClock (w : World) (now : Timestamp) : World := { w with clock := now }

/-- The second world differs from the first one in what was logged and reported, and in nothing
else. -/
def Logged (w w' : World) : Prop :=
  ∃ log events, w' = { w with events := events, memory := { w.memory with log := log } }

theorem Logged.rows (h : Logged w w₁) : w₁.memory.state = w.memory.state := by
  obtain ⟨log, events, rfl⟩ := h
  rfl

theorem Logged.clock (h : Logged w w₁) : w₁.clock = w.clock := by
  obtain ⟨log, events, rfl⟩ := h
  rfl

theorem Logged.refl (w : World) : Logged w w := ⟨w.memory.log, w.events, rfl⟩

theorem Logged.symm (h : Logged w w₁) : Logged w₁ w := by
  obtain ⟨_, _, rfl⟩ := h
  exact ⟨w.memory.log, w.events, rfl⟩

theorem Logged.trans (first : Logged w w₁) (second : Logged w₁ w₂) : Logged w w₂ := by
  obtain ⟨_, _, rfl⟩ := first
  obtain ⟨log, events, rfl⟩ := second
  exact ⟨log, events, rfl⟩

end World

/-- A report is only reported. -/
theorem logged_report (level : Telemetry.Level) (source message : String)
    (fields : List (String × Telemetry.Value)) (w : World) :
    w.Logged ((Host.report level source message fields : Sim Unit).run w).2 :=
  ⟨w.memory.log, _, rfl⟩

end Simulation

namespace Memory

open Simulation

variable {α : Type}

/-! ### Updates of the rows -/

/-- An update replaces the rows by those that it leaves. -/
theorem run_perform (update : Timestamp → Update α) (w : World) :
    (perform update : Sim (Outcome α)).run w =
      (((update w.clock).on w.memory.state).1,
        w.withRows ((update w.clock).on w.memory.state).2) := rfl

/-- A transition that succeeds is recorded after the rows have been replaced. -/
theorem run_performTransition (transition : Transition) (update : Timestamp → Update Task)
    (w : World) : (performTransition transition update : Sim (Outcome Task)).run w =
      match (update w.clock).on w.memory.state with
      | (.error failure, s) => (.error failure, w.withRows s)
      | (.ok t, s) =>
        (.ok t, ((recordTransition writeLog transition t : Sim Unit).run (w.withRows s)).2) := by
  rw [performTransition, run_bind, run_perform]
  cases (update w.clock).on w.memory.state with
  | mk outcome s => cases outcome <;> rfl

/-! ### Log entries -/

/-- Whether or not the log can be written, nothing else is. -/
theorem logged_appendLog (entry : NewLogEntry) (w : World) :
    w.Logged ((appendLog writeLog entry : Sim Unit).run w).2 := by
  have written : w.Logged ((writeLog entry : Sim (Outcome Unit)).run w).2 := ⟨_, _, rfl⟩
  rw [appendLog, run_bind]
  refine written.trans ?_
  cases ((writeLog entry : Sim (Outcome Unit)).run w).1 with
  | error failure => exact logged_report _ _ _ _ _
  | ok result => exact .refl _

theorem logged_recordTransition (transition : Transition) (t : Task) (w : World) :
    w.Logged ((recordTransition writeLog transition t : Sim Unit).run w).2 := by
  unfold recordTransition
  cases transition.logLine? t with
  | none => exact .refl w
  | some line => exact logged_appendLog _ w

theorem logged_recordClaims (ts : List Task) (w : World) :
    w.Logged ((forIn (m := Sim) ts PUnit.unit fun t _ => do
      recordTransition writeLog .claim t
      pure (.yield PUnit.unit)).run w).2 := by
  induction ts generalizing w with
  | nil => exact .refl w
  | cons t ts ih =>
    rw [List.forIn_cons, bind_assoc, run_bind]
    exact (logged_recordTransition .claim t w).trans (ih _)

/-- A claim always succeeds. -/
theorem run_claim (worker : String) (limit : Nat) (w : World) :
    ∃ w', (claim worker limit : Sim (Outcome (List Task))).run w =
        (.ok (w.memory.state.claim worker limit w.clock).1, w') ∧
      (w.withRows (w.memory.state.claim worker limit w.clock).2).Logged w' :=
  ⟨_, rfl, logged_recordClaims _ _⟩

end Memory

end WorkQueue
