import WorkQueue.Proofs.Memory.Operations

/-!
# Sessions on a database with fixed answers

A database that carries out every command and answers each statement always in the same way. Running
a session on it follows the session step by step: each part yields a result or fails, a failure ends
the session, and a transaction is its body.

## Main definitions

* `Database.Answers`: an answer to each statement
* `Database.Answers.eval`: a part of a session, run in a simulated world

## Main statements

* `Database.Answers.eval_bind`: parts one after the other
* `Database.Answers.eval_transaction`: a transaction is its body
-/

namespace WorkQueue.Database

open Session Simulation

variable {α β : Type}

/-- Goes on with the result of a session that is run. -/
theorem Session.interpret_andThen {m : Type → Type} [Monad m] [LawfulMonad m] [Host m]
    (e : Executor m) (x : Session α) (f : α → Session β) :
    (x.andThen f).interpret e = x.interpret e >>= fun a => (f a).interpret e := by
  induction x with
  | done result => simp only [andThen, interpret, pure_bind]
  | run s next ih | command c next ih | ledger next ih | now next ih | freshId next ih
  | emit event next ih => simp only [andThen, interpret, ih, bind_assoc]

/-- An answer to each statement. -/
abbrev Answers := (s : Statement) → Except Trouble (List s.Row)

namespace Answers

/-- A database that carries out every command and gives these answers. -/
def executor (answers : Answers) : Executor Sim where
  run s := return answers s
  command _ := return .ok ()
  ledger := return .ok []

/-- A part of a session, run on the database. -/
def eval (answers : Answers) (part : Fallible α) (w : World) : Outcome α × World :=
  (part.run.interpret answers.executor).run w

variable (answers : Answers) {s : Statement} (w : World)

theorem eval_bind (x : Fallible α) (f : α → Fallible β) : answers.eval (x >>= f) w =
    match answers.eval x w with
    | (.ok a, w') => answers.eval (f a) w'
    | (.error failure, w') => (.error failure, w') := by
  have split : (x >>= f).run = x.run.andThen (ExceptT.bindCont f) := rfl
  rw [eval, split, interpret_andThen, Simulation.run_bind]
  show (Session.interpret answers.executor (ExceptT.bindCont f (answers.eval x w).1)).run
    (answers.eval x w).2 = _
  generalize answers.eval x w = result
  obtain ⟨outcome, w'⟩ := result
  cases outcome with
  | ok a => rfl
  | error failure => rfl

theorem eval_lift (result : Outcome α) :
    answers.eval (Database.lift result) w = (result, w) := rfl

/-- A session that cannot fail, as a part. -/
theorem eval_session (x : Session α) : answers.eval (ExceptT.lift x) w =
    (.ok ((x.interpret answers.executor).run w).1, ((x.interpret answers.executor).run w).2) := by
  have split : (ExceptT.lift x : Fallible α).run = x.andThen fun a => done (.ok a) := rfl
  rw [eval, split, interpret_andThen]
  rfl

theorem eval_map (x : Fallible α) (f : α → β) :
    answers.eval (x >>= fun a => pure (f a)) w =
      ((answers.eval x w).1.map f, (answers.eval x w).2) := by
  rw [eval_bind]
  generalize answers.eval x w = result
  obtain ⟨outcome, w'⟩ := result
  cases outcome <;> rfl

variable {answers w}

theorem eval_optionalRow {rows : List s.Row} (h : answers s = .ok rows) :
    answers.eval (attempt (optionalRow s)) w = (.ok rows.head?, w) := by
  have answered : answers.eval (attempt (optionalRow s)) w =
    (((answers s).map (·.head?)).mapError Trouble.toFailure, w) := rfl
  rw [answered, h]
  rfl

/-- A statement for one row at most. -/
theorem run_optionalRow {row : Option s.Row} (h : answers s = .ok row.toList) :
    ((optionalRow s).interpret answers.executor).run w = (.ok row, w) := by
  have answered : ((optionalRow s).interpret answers.executor).run w =
    ((answers s).map (·.head?), w) := rfl
  rw [answered, h]
  cases row <;> rfl

theorem eval_attempt_oneRow : answers.eval (attempt (oneRow s)) w =
    ((match answers s with
      | .error trouble => .error trouble
      | .ok [] => .error .noRow
      | .ok (row :: _) => .ok row : Except Trouble s.Row).mapError Trouble.toFailure, w) := rfl

theorem eval_oneRow {row : s.Row} (h : answers s = .ok [row]) :
    answers.eval (attempt (oneRow s)) w = (.ok row, w) := by
  rw [eval_attempt_oneRow, h]
  rfl

theorem eval_execute {rows : List s.Row} (h : answers s = .ok rows) :
    answers.eval (attempt (execute s)) w = (.ok (), w) := by
  have answered : answers.eval (attempt (execute s)) w =
    (((answers s).map fun _ => ()).mapError Trouble.toFailure, w) := rfl
  rw [answered, h]
  rfl

/-! ### Parts that go on -/

theorem eval_lift_bind {a : α} {result : Outcome α} (h : result = .ok a) (f : α → Fallible β) :
    answers.eval (Database.lift result >>= f) w = answers.eval (f a) w := by
  rw [eval_bind, eval_lift, h]

theorem eval_optionalRow_bind {rows : List s.Row} (h : answers s = .ok rows)
    (f : Option s.Row → Fallible β) :
    answers.eval (attempt (optionalRow s) >>= f) w = answers.eval (f rows.head?) w := by
  rw [eval_bind, eval_optionalRow h]

theorem eval_oneRow_bind {row : s.Row} (h : answers s = .ok [row]) (f : s.Row → Fallible β) :
    answers.eval (attempt (oneRow s) >>= f) w = answers.eval (f row) w := by
  rw [eval_bind, eval_oneRow h]

theorem eval_execute_bind {rows : List s.Row} (h : answers s = .ok rows) (f : Unit → Fallible β) :
    answers.eval (attempt (execute s) >>= f) w = answers.eval (f ()) w := by
  rw [eval_bind, eval_execute h]

/-- All commands are carried out, so a transaction is its body. -/
theorem eval_transaction (body : Fallible α) :
    answers.eval (transaction body) w = answers.eval body w := by
  have sent : ∀ c w', answers.eval (attempt (send c)) w' = (.ok (), w') := fun _ _ => rfl
  rw [transaction, eval_bind, sent]
  simp only
  rw [eval_bind, eval_session]
  have result : (body.run.interpret answers.executor).run w = answers.eval body w := rfl
  rw [result]
  cases ended : answers.eval body w with
  | mk outcome w' =>
    cases outcome with
    | ok value =>
      simp only
      rw [eval_bind, sent]
      rfl
    | error failure => rfl

end Answers

end WorkQueue.Database
