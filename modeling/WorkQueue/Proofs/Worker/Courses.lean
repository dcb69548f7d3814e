import WorkQueue.Proofs.Worker.Dialogue

/-!
# Courses of an execution

Whatever a storage answers and however a handler ends, the execution of a claimed task takes one of a
few courses: it is not started; its handler succeeds and the success is to be stored; or there is no
handler, or it does not succeed, and the text that says why is to be stored.

## Main definitions

* `Worker.Fails`: why a started task could not be handled
* `Worker.Course`: the courses of an execution, with their verdicts

## Main statements

* `Worker.path_execute`: an execution takes these courses and no others
-/

namespace WorkQueue.Worker

open Dialogue

variable {P : Type} {id : Uuid} {t : Task} {e : Execution} {verdict : Verdict}
  {asked : List (Asked P)}

/-! ### The course of an execution -/

/-- A started task could not be handled, for the reason that the text gives. -/
inductive Fails (t : Task) : List (Asked P) → String → Prop where
  | unregistered {table : Processors P} (missing : table.find? t.taskType = none) :
      Fails t [.processors table] s!"No processor registered for task type {t.taskType}"
  | reported {table : Processors P} {p : P} (registered : table.find? t.taskType = some p)
      (message : String) : Fails t [.processors table, .process p t (.failed message)] message
  | brokeOff {table : Processors P} {p : P} (registered : table.find? t.taskType = some p) :
      Fails t [.processors table, .process p t (.brokeOff none)] "handler panicked"
  | brokeOffWith {table : Processors P} {p : P} (registered : table.find? t.taskType = some p)
      (message : String) :
      Fails t [.processors table, .process p t (.brokeOff (some message))]
        s!"handler panicked: {message}"

/-- The verdict on an execution, which counts only if its outcome was stored. -/
def Verdict.ifStored (verdict : Verdict) : Outcome Task → Verdict
  | .ok _ => verdict
  | .error _ => .skipped

/-- All that is asked on behalf of a claimed task, with the answers and the verdict. -/
inductive Course (id : Uuid) : List (Asked P) → Verdict → Prop where
  | notStarted (failure : Failure) : Course id [.start id (.error failure)] .skipped
  | succeeded {t : Task} {table : Processors P} {p : P}
      (registered : table.find? t.taskType = some p) (answer : Outcome Task) :
      Course id
        [.start id (.ok t), .processors table, .process p t .succeeded, .complete id answer]
        (Verdict.completed.ifStored answer)
  | failed {t : Task} {handling : List (Asked P)} {text : String} (fails : Fails t handling text)
      (answer : Outcome Task) :
      Course id (.start id (.ok t) :: (handling ++ [.fail id text answer]))
        (Verdict.failed.ifStored answer)

theorem path_start : (Execution.start (storage (P := P)) id).Path asked e ↔
    (∃ t, asked = [.start id (.ok t)] ∧ e = .started id t) ∨
      ∃ failure, asked = [.start id (.error failure)] ∧ e = .finished .skipped := by
  constructor
  · rintro ⟨answer, rest, rfl, path⟩
    cases answer with
    | ok t =>
      obtain ⟨rfl, rfl⟩ := path
      exact .inl ⟨t, rfl, rfl⟩
    | error failure =>
      obtain ⟨rfl, rfl⟩ := path
      exact .inr ⟨failure, rfl, rfl⟩
  · rintro (⟨t, rfl, rfl⟩ | ⟨failure, rfl, rfl⟩)
    · exact ⟨.ok t, [], rfl, rfl, rfl⟩
    · exact ⟨.error failure, [], rfl, rfl, rfl⟩

/-- Two branches that ask the same. -/
theorem path_ite {α : Type} {c : Prop} [Decidable c] {x y : Dialogue P α} {a : α} {p : Prop}
    (left : x.Path asked a ↔ p) (right : y.Path asked a ↔ p) :
    (if c then x else y).Path asked a ↔ p := by
  split
  · exact left
  · exact right

/-- Reports of a dropped outcome show in no way. -/
theorem path_reportDropped_bind {operation : String} {failure : Failure}
    {f : Unit → Dialogue P Verdict} :
    (reportDropped id operation failure >>= f).Path asked verdict ↔ (f ()).Path asked verdict := by
  unfold reportDropped
  by_cases dropped : failure.isInvalidTransition
  · simp only [dropped, if_true]
    rfl
  · simp only [dropped]
    rfl

theorem path_conclude_ok : (Execution.conclude (storage (P := P)) id (.ok ())).Path asked verdict ↔
    ∃ answer, asked = [.complete id answer] ∧ verdict = Verdict.completed.ifStored answer := by
  constructor
  · rintro ⟨answer, rest, rfl, path⟩
    cases answer with
    | ok t =>
      obtain ⟨rfl, rfl⟩ := path
      exact ⟨.ok t, rfl, rfl⟩
    | error failure =>
      obtain ⟨rfl, rfl⟩ := path_reportDropped_bind.1 path
      exact ⟨.error failure, rfl, rfl⟩
  · rintro ⟨answer, rfl, rfl⟩
    refine ⟨answer, [], rfl, ?_⟩
    cases answer with
    | ok t => exact ⟨rfl, rfl⟩
    | error failure => exact path_reportDropped_bind.2 ⟨rfl, rfl⟩

theorem path_conclude_error {failure : Failure} :
    (Execution.conclude (storage (P := P)) id (.error failure)).Path asked verdict ↔
      ∃ answer, asked = [.fail id (lastErrorText failure) answer] ∧
        verdict = Verdict.failed.ifStored answer := by
  constructor
  · rintro ⟨answer, rest, rfl, path⟩
    cases answer with
    | ok t =>
      -- a task that has used up its attempts is reported in another way, which does not show
      have ended : rest = [] ∧ verdict = .failed := by
        refine (path_ite (c := t.retriesExhausted) ?_ ?_).1 path
        · exact Iff.rfl
        · exact Iff.rfl
      obtain ⟨rfl, rfl⟩ := ended
      exact ⟨.ok t, rfl, rfl⟩
    | error refusal =>
      obtain ⟨rfl, rfl⟩ := path_reportDropped_bind.1 path
      exact ⟨.error refusal, rfl, rfl⟩
  · rintro ⟨answer, rfl, rfl⟩
    refine ⟨answer, [], rfl, ?_⟩
    cases answer with
    | ok t =>
      refine (path_ite (c := t.retriesExhausted) ?_ ?_).2 trivial
      · exact iff_of_true ⟨rfl, rfl⟩ trivial
      · exact iff_of_true ⟨rfl, rfl⟩ trivial
    | error refusal => exact path_reportDropped_bind.2 ⟨rfl, rfl⟩

theorem path_resolve {taskType : String} {outcome : Outcome P} :
    (resolve taskType).Path asked outcome ↔ ∃ table, asked = [.processors table] ∧
      (table.find? taskType = none ∧ outcome = .error (.processorNotFound taskType) ∨
        ∃ p, table.find? taskType = some p ∧ outcome = .ok p) := by
  have resolved : ∀ table : Processors P, outcome = table.resolve taskType ↔
      (table.find? taskType = none ∧ outcome = .error (.processorNotFound taskType) ∨
        ∃ p, table.find? taskType = some p ∧ outcome = .ok p) := by
    intro table
    rw [Processors.resolve]
    cases table.find? taskType with
    | none => simp
    | some p => simp
  constructor
  · rintro ⟨table, rest, rfl, rfl, ended⟩
    exact ⟨table, rfl, (resolved table).1 ended⟩
  · rintro ⟨table, rfl, ended⟩
    exact ⟨table, [], rfl, rfl, (resolved table).2 ended⟩

/-- A handler is run at most once, and only if there is one. -/
theorem path_handle {result : Outcome Unit} :
    (Execution.handle (resolve (P := P)) process t).Path asked result ↔
      (∃ table, Processors.find? table t.taskType = none ∧ asked = [.processors table] ∧
        result = .error (.processorNotFound t.taskType)) ∨
      ∃ table p ended, table.find? t.taskType = some p ∧
        asked = [.processors table, .process p t ended] ∧ result = outcomeOf t.taskType ended := by
  constructor
  · intro path
    obtain ⟨_, _, rest, rfl, resolved, path⟩ := path_bind.1 path
    obtain ⟨table, rfl, ⟨missing, rfl⟩ | ⟨p, registered, rfl⟩⟩ := path_resolve.1 resolved
    · obtain ⟨rfl, rfl⟩ := path
      exact .inl ⟨table, missing, rfl, rfl⟩
    · obtain ⟨ended, _, rfl, rfl, rfl⟩ := path
      exact .inr ⟨table, p, ended, registered, rfl, rfl⟩
  · rintro (⟨table, missing, rfl, rfl⟩ | ⟨table, p, ended, registered, rfl, rfl⟩)
    · have resolved := path_resolve.2 ⟨table, rfl, .inl ⟨missing, rfl⟩⟩
      exact path_bind.2 ⟨_, _, [], rfl, resolved, rfl, rfl⟩
    · have resolved := path_resolve.2 ⟨table, rfl, .inr ⟨p, registered, rfl⟩⟩
      exact path_bind.2 ⟨_, _, [.process p t ended], rfl, resolved, ended, [], rfl, rfl, rfl⟩

/-- A handling that failed, and the failure whose text is stored. -/
theorem fails_iff {text : String} : Fails t asked text ↔ ∃ failure, lastErrorText failure = text ∧
    (Execution.handle (resolve (P := P)) process t).Path asked (.error failure) := by
  constructor
  · rintro (⟨missing⟩ | ⟨registered, _⟩ | ⟨registered⟩ | ⟨registered, message⟩)
    · exact ⟨_, rfl, path_handle.2 (.inl ⟨_, missing, rfl, rfl⟩)⟩
    · exact ⟨_, rfl, path_handle.2 (.inr ⟨_, _, .failed text, registered, rfl, rfl⟩)⟩
    · exact ⟨_, rfl, path_handle.2 (.inr ⟨_, _, .brokeOff none, registered, rfl, rfl⟩)⟩
    · exact ⟨_, rfl, path_handle.2 (.inr ⟨_, _, .brokeOff (some message), registered, rfl, rfl⟩)⟩
  · rintro ⟨failure, rfl, path⟩
    rcases path_handle.1 path with ⟨_, missing, rfl, same⟩ | ⟨_, p, ended, registered, rfl, same⟩
    · cases same
      exact .unregistered missing
    · match ended with
      | .succeeded => cases same
      | .failed message =>
        obtain rfl := Except.error.inj same
        exact .reported registered message
      | .brokeOff none =>
        obtain rfl := Except.error.inj same
        exact .brokeOff registered
      | .brokeOff (some message) =>
        obtain rfl := Except.error.inj same
        exact .brokeOffWith registered message

/-- A handling that succeeded. -/
theorem path_handle_ok : (Execution.handle (resolve (P := P)) process t).Path asked (.ok ()) ↔
    ∃ table p, Processors.find? table t.taskType = some p ∧
      asked = [.processors table, .process p t .succeeded] := by
  constructor
  · intro path
    rcases path_handle.1 path with ⟨_, -, -, same⟩ | ⟨table, p, ended, registered, rfl, same⟩
    · cases same
    · match ended with
      | .succeeded => exact ⟨table, p, registered, rfl⟩
      | .failed message => cases same
      | .brokeOff none => cases same
      | .brokeOff (some message) => cases same
  · rintro ⟨table, p, registered, rfl⟩
    exact path_handle.2 (.inr ⟨table, p, .succeeded, registered, rfl, rfl⟩)

/-- The execution of a task takes one of the courses, whatever is answered, and it can take each of
them. -/
theorem path_execute : (Dialogue.execute id).Path asked verdict ↔ Course id asked verdict := by
  constructor
  · intro path
    obtain ⟨first, e, rest, rfl, begun, path⟩ := path_bind.1 path
    rcases path_start.1 begun with ⟨t, rfl, rfl⟩ | ⟨failure, rfl, rfl⟩
    · obtain ⟨handling, result, conclusion, rfl, handled, concluded⟩ := path_bind.1 path
      cases result with
      | ok _ =>
        obtain ⟨table, p, registered, rfl⟩ := path_handle_ok.1 handled
        obtain ⟨answer, rfl, rfl⟩ := path_conclude_ok.1 concluded
        exact .succeeded registered answer
      | error failure =>
        obtain ⟨answer, rfl, rfl⟩ := path_conclude_error.1 concluded
        exact .failed (fails_iff.2 ⟨failure, rfl, handled⟩) answer
    · obtain ⟨rfl, rfl⟩ := path
      exact .notStarted failure
  · intro course
    refine path_bind.2 ?_
    cases course with
    | notStarted failure =>
      exact ⟨_, _, [], rfl, path_start.2 (.inr ⟨failure, rfl, rfl⟩), rfl, rfl⟩
    | @succeeded t table p registered answer =>
      refine ⟨_, _, _, rfl, path_start.2 (.inl ⟨t, rfl, rfl⟩), path_bind.2 ?_⟩
      exact ⟨_, _, _, rfl, path_handle_ok.2 ⟨table, p, registered, rfl⟩,
        path_conclude_ok.2 ⟨answer, rfl, rfl⟩⟩
    | @failed t handling text fails answer =>
      obtain ⟨failure, rfl, handled⟩ := fails_iff.1 fails
      refine ⟨_, _, _, rfl, path_start.2 (.inl ⟨t, rfl, rfl⟩), path_bind.2 ?_⟩
      exact ⟨_, _, _, rfl, handled, path_conclude_error.2 ⟨answer, rfl, rfl⟩⟩

end WorkQueue.Worker
