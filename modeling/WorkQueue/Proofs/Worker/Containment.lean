import WorkQueue.Proofs.Worker.Courses
import Mathlib.Data.List.Forall2

/-!
# Failures stay with their task

A batch consists of the courses of its executions, one for each of its tasks. None of them ends early
because of another one, and none depends on what another one was answered. This holds for executions
one after the other and side by side, whatever the storage answers and however the handlers end.

## Main definitions

* `Worker.SideBySide`: several dialogues held at once
* `Worker.BatchRun`: the executions of what a claim returned, and the counts
* `Worker.Contained`: what is promised of batches

## Main statements

* `Worker.path_runOnce`: the ways of a batch whose executions follow one after the other
* `Worker.batch_contained`: batches keep the promise
-/

namespace WorkQueue.Worker

open Dialogue

variable {P α : Type} {asked : List (Asked P)} {joint : List (Nat × Asked P)} {ts : List Task}
  {worker : String} {config : Settings.Worker}

/-! ### Dialogues side by side -/

/-- What was asked in the dialogue at a position. -/
def strand (joint : List (Nat × Asked P)) (i : Nat) : List (Asked P) :=
  (joint.filter fun x => x.1 = i).map (·.2)

/-- Dialogues are held at once, each to its end. Every exchange belongs to the dialogue at some
position, and nothing is said of the order of exchanges that belong to different ones. -/
structure SideBySide (dialogues : List (Dialogue P α)) (joint : List (Nat × Asked P))
    (results : List α) : Prop where
  positions : ∀ x ∈ joint, x.1 < dialogues.length
  length_eq : results.length = dialogues.length
  paths : ∀ (i : Nat) (d : Dialogue P α) (a : α), dialogues[i]? = some d → results[i]? = some a →
    d.Path (strand joint i) a

theorem SideBySide.nil : SideBySide ([] : List (Dialogue P α)) [] [] where
  positions x hx := absurd hx List.not_mem_nil
  length_eq := rfl
  paths i d a hd := by simp at hd

/-- One dialogue, and after it the others. -/
theorem SideBySide.cons {d : Dialogue P α} {a : α} {dialogues : List (Dialogue P α)}
    {results : List α} (path : d.Path asked a) (others : SideBySide dialogues joint results) :
    SideBySide (d :: dialogues) (asked.map (fun y => (0, y)) ++ joint.map fun x => (x.1 + 1, x.2))
      (a :: results) where
  positions x hx := by
    rcases List.mem_append.1 hx with first | later
    · obtain ⟨y, -, rfl⟩ := List.mem_map.1 first
      exact Nat.succ_pos _
    · obtain ⟨y, hy, rfl⟩ := List.mem_map.1 later
      exact Nat.succ_lt_succ (others.positions y hy)
  length_eq := congrArg Nat.succ others.length_eq
  paths i d' a' hd ha := by
    cases i with
    | zero =>
      cases hd
      cases ha
      have own : strand (asked.map (fun y => (0, y)) ++ joint.map fun x => (x.1 + 1, x.2)) 0 =
          asked := by
        simp [strand, List.filter_map, Function.comp_def]
      rwa [own]
    | succ i =>
      have own : strand (asked.map (fun y => (0, y)) ++ joint.map fun x => (x.1 + 1, x.2)) (i + 1) =
          strand joint i := by
        simp [strand, List.filter_map, Function.comp_def]
      rw [own]
      exact others.paths i d' a' hd ha

/-- Every dialogue comes to its end. -/
theorem SideBySide.exists_path {dialogues : List (Dialogue P α)} {results : List α}
    (held : SideBySide dialogues joint results) {i : Nat} {d : Dialogue P α}
    (hd : dialogues[i]? = some d) : ∃ a, d.Path (strand joint i) a := by
  have bound : i < results.length := by
    rw [held.length_eq]
    exact (List.getElem?_eq_some_iff.1 hd).1
  exact ⟨_, held.paths i d _ hd (List.getElem?_eq_getElem bound)⟩

/-! ### Batches -/

/-- What follows a claim that was answered: the executions of the claimed tasks, held side by side,
and the counts of their verdicts. -/
inductive BatchRun : Outcome (List Task) → List (Nat × Asked P) → Outcome Tally → Prop where
  | refused (failure : Failure) : BatchRun (.error failure) [] (.error failure)
  | executed {ts : List Task} {joint : List (Nat × Asked P)} {verdicts : List Verdict}
      (held : SideBySide (ts.map fun t => Dialogue.execute t.id) joint verdicts) :
      BatchRun (.ok ts) joint (.ok (verdicts.foldl Tally.add { claimed := ts.length }))

theorem BatchRun.exists_path {result : Outcome Tally} (run : BatchRun (.ok ts) joint result) {i : Nat}
    {t : Task} (claimed : ts[i]? = some t) :
    ∃ verdict, (Dialogue.execute t.id).Path (strand joint i) verdict := by
  cases run with
  | executed held =>
    refine held.exists_path ?_
    rw [List.getElem?_map, claimed]
    rfl

/-- Executions one after the other: a course for each task, and their verdicts are counted. -/
theorem path_executeAll {tally result : Tally} :
    (executeAll Dialogue.execute ts tally).Path asked result ↔
      ∃ courses : List (List (Asked P) × Verdict),
        List.Forall₂ (fun t course => Course t.id course.1 course.2) ts courses ∧
          asked = courses.flatMap (·.1) ∧
          result = (courses.map (·.2)).foldl Tally.add tally := by
  induction ts generalizing asked tally with
  | nil =>
    constructor
    · rintro ⟨rfl, rfl⟩
      exact ⟨[], .nil, rfl, rfl⟩
    · rintro ⟨_, ⟨⟩, rfl, rfl⟩
      exact ⟨rfl, rfl⟩
  | cons t ts ih =>
    constructor
    · intro path
      obtain ⟨first, verdict, rest, rfl, executed, path⟩ := path_bind.1 path
      obtain ⟨courses, each, rfl, rfl⟩ := ih.1 path
      exact ⟨(first, verdict) :: courses, .cons (path_execute.1 executed) each, rfl, rfl⟩
    · rintro ⟨courses, each, rfl, rfl⟩
      cases each with
      | cons head each =>
        exact path_bind.2 ⟨_, _, _, rfl, path_execute.2 head, ih.2 ⟨_, each, rfl, rfl⟩⟩

/-- Counts are reported before they are returned. -/
theorem path_counted {x : Dialogue P Tally} {result : Outcome Tally} :
    (do
      let tally ← x
      tally.report
      return .ok tally : Dialogue P (Outcome Tally)).Path asked result ↔
        ∃ tally, x.Path asked tally ∧ result = .ok tally := by
  constructor
  · intro path
    obtain ⟨first, tally, _, rfl, path, rfl, rfl⟩ := path_bind.1 path
    exact ⟨tally, by rwa [List.append_nil], rfl⟩
  · rintro ⟨tally, path, rfl⟩
    exact path_bind.2 ⟨asked, tally, [], (List.append_nil _).symm, path, rfl, rfl⟩

/-- A batch whose executions follow one after the other: the claim is answered with a failure and
nothing else is asked, or every claimed task takes its course. -/
theorem path_runOnce {result : Outcome Tally} :
    (Dialogue.runOnce worker config).Path asked result ↔
      (∃ failure, asked = [.claim worker config.batchSize (.error failure)] ∧
        result = .error failure) ∨
      ∃ ts, ∃ courses : List (List (Asked P) × Verdict),
        List.Forall₂ (fun t course => Course t.id course.1 course.2) ts courses ∧
          asked = .claim worker config.batchSize (.ok ts) :: courses.flatMap (·.1) ∧
          result = .ok ((courses.map (·.2)).foldl Tally.add { claimed := ts.length }) := by
  constructor
  · rintro ⟨answer, rest, rfl, path⟩
    match answer with
    | .error failure =>
      obtain ⟨rfl, rfl⟩ := path
      exact .inl ⟨failure, rfl, rfl⟩
    | .ok [] =>
      obtain ⟨rfl, rfl⟩ := path
      exact .inr ⟨[], [], .nil, rfl, rfl⟩
    | .ok (t :: ts) =>
      obtain ⟨tally, executed, rfl⟩ := path_counted.1 path
      obtain ⟨courses, each, rfl, rfl⟩ := path_executeAll.1 executed
      exact .inr ⟨t :: ts, courses, each, rfl, rfl⟩
  · rintro (⟨failure, rfl, rfl⟩ | ⟨ts, courses, each, rfl, rfl⟩)
    · exact ⟨.error failure, [], rfl, rfl, rfl⟩
    · refine ⟨.ok ts, _, rfl, ?_⟩
      cases each with
      | nil => exact ⟨rfl, rfl⟩
      | cons head each =>
        refine path_counted.2 ⟨_, ?_, rfl⟩
        exact path_executeAll.2 ⟨_, .cons head each, rfl, rfl⟩

/-- Courses one after the other are courses side by side. -/
theorem sideBySide_of_courses {courses : List (List (Asked P) × Verdict)}
    (each : List.Forall₂ (fun t course => Course t.id course.1 course.2) ts courses) :
    ∃ joint, courses.flatMap (·.1) = joint.map (·.2) ∧
      SideBySide (ts.map fun t => Dialogue.execute t.id) joint (courses.map (·.2)) := by
  induction each with
  | nil => exact ⟨[], rfl, .nil⟩
  | cons head _ ih =>
    obtain ⟨joint, same, held⟩ := ih
    refine ⟨_, ?_, .cons (path_execute.2 head) held⟩
    rw [List.flatMap_cons, same, List.map_append, List.map_map, List.map_map]
    simp [Function.comp_def]

/-! ### Counts -/

/-- Counting verdicts adds up how often each one occurs. -/
theorem foldl_add (verdicts : List Verdict) (tally : Tally) :
    verdicts.foldl Tally.add tally =
      ⟨tally.claimed, tally.completed + verdicts.count .completed,
        tally.failed + verdicts.count .failed, tally.skipped + verdicts.count .skipped⟩ := by
  induction verdicts generalizing tally with
  | nil => rfl
  | cons verdict verdicts ih =>
    rw [List.foldl_cons, ih]
    cases verdict <;> simp [Tally.add, Nat.add_assoc, Nat.add_comm 1]

theorem length_eq_counts (verdicts : List Verdict) : verdicts.length =
    verdicts.count .completed + verdicts.count .failed + verdicts.count .skipped := by
  induction verdicts with
  | nil => rfl
  | cons verdict verdicts ih =>
    rw [List.length_cons, ih]
    cases verdict <;> simp <;> omega

/-- A batch that was claimed: any courses, one for each of its tasks, and their counts. -/
theorem batchRun_iff {result : Outcome Tally} : BatchRun (.ok ts) joint result ↔
    ∃ verdicts : List Verdict, verdicts.length = ts.length ∧ (∀ x ∈ joint, x.1 < ts.length) ∧
      (∀ (i : Nat) (t : Task) (verdict : Verdict), ts[i]? = some t →
        verdicts[i]? = some verdict → Course t.id (strand joint i) verdict) ∧
      result = .ok {
        claimed := ts.length
        completed := verdicts.count .completed
        failed := verdicts.count .failed
        skipped := verdicts.count .skipped } := by
  have counts : ∀ verdicts : List Verdict, verdicts.foldl Tally.add { claimed := ts.length } =
      { claimed := ts.length, completed := verdicts.count .completed,
        failed := verdicts.count .failed, skipped := verdicts.count .skipped } := by
    intro verdicts
    rw [foldl_add]
    simp only [Nat.zero_add]
  constructor
  · intro run
    cases run with
    | @executed _ _ verdicts held =>
      refine ⟨verdicts, by simpa using held.length_eq, by simpa using held.positions, ?_, ?_⟩
      · intro i t verdict claimed ended
        exact path_execute.1 (held.paths i _ verdict (by simp [claimed]) ended)
      · rw [counts]
  · rintro ⟨verdicts, length_eq, positions, courses, rfl⟩
    rw [← counts]
    refine .executed ⟨by simpa using positions, by simpa using length_eq, ?_⟩
    intro i d verdict hd ended
    rw [List.getElem?_map, Option.map_eq_some_iff] at hd
    obtain ⟨t, claimed, rfl⟩ := hd
    exact path_execute.2 (courses i t verdict claimed ended)

/-! ### What is promised -/

/-- What is promised of a batch of a worker. -/
structure Contained (P : Type) (worker : String) (config : Settings.Worker) : Prop where
  /-- A batch is the dialogue held with its storage and its handlers, whatever effects they have. -/
  is_dialogue : ∀ {m : Type → Type} [Monad m] [LawfulMonad m] [Host m] (b : Backend m)
    (table : m (Processors P)) (handler : P → Task → m HandlerResult),
    runOnce b (execute b (fun taskType => do return (← table).resolve taskType) handler)
      worker config = (Dialogue.runOnce worker config).interpret b table handler
  /-- What it returns, with any storage and any handlers on a state, comes of one of the ways. -/
  every_storage : ∀ {σ : Type} [Host (StateM σ)] (b : Backend (StateM σ))
    (table : StateM σ (Processors P)) (handler : P → Task → StateM σ HandlerResult) (w : σ),
    ∃ asked, (Dialogue.runOnce (P := P) worker config).Path asked
      ((runOnce b (execute b (fun taskType => do return (← table).resolve taskType) handler)
        worker config).run w).1
  /-- It claims once, and then executes what it has claimed. -/
  claims_once : ∀ {asked : List (Asked P)} {result : Outcome Tally},
    (Dialogue.runOnce worker config).Path asked result →
    ∃ answer joint, asked = .claim worker config.batchSize answer :: joint.map (·.2) ∧
      BatchRun answer joint result
  /-- It is refused exactly when the claim is. -/
  refused_iff : ∀ {answer : Outcome (List Task)} {joint : List (Nat × Asked P)}
    {result : Outcome Tally}, BatchRun answer joint result →
    ∀ failure, result = .error failure ↔ answer = .error failure
  /-- Otherwise every claimed task takes its course, any one in any combination with those of the other
  tasks, and the courses are counted by their verdicts. -/
  counted : ∀ {ts : List Task} {joint : List (Nat × Asked P)} {result : Outcome Tally},
    BatchRun (.ok ts) joint result ↔
      ∃ verdicts : List Verdict, verdicts.length = ts.length ∧ (∀ x ∈ joint, x.1 < ts.length) ∧
        (∀ (i : Nat) (t : Task) (verdict : Verdict), ts[i]? = some t →
          verdicts[i]? = some verdict → Course t.id (strand joint i) verdict) ∧
        result = .ok {
          claimed := ts.length
          completed := verdicts.count .completed
          failed := verdicts.count .failed
          skipped := verdicts.count .skipped }
  /-- No task is counted twice or not at all. -/
  sum : ∀ {ts : List Task} {joint : List (Nat × Asked P)} {tally : Tally},
    BatchRun (.ok ts) joint (.ok tally) →
    tally.claimed = ts.length ∧ tally.claimed = tally.completed + tally.failed + tally.skipped
  /-- What is asked for a task depends on the answers that were given for it, and on nothing else. -/
  independent : ∀ {ts₁ ts₂ : List Task} {joint₁ joint₂ : List (Nat × Asked P)}
    {result₁ result₂ : Outcome Tally},
    BatchRun (.ok ts₁) joint₁ result₁ → BatchRun (.ok ts₂) joint₂ result₂ →
    ∀ (i j : Nat) (t₁ t₂ : Task), ts₁[i]? = some t₁ → ts₂[j]? = some t₂ → t₁.id = t₂.id →
      PartAtAnswer (strand joint₁ i) (strand joint₂ j)

/-- **Failures are contained.** Whatever the claim, the starts, the completions and the failures of a
storage answer, and however handlers end, a batch is refused only by its claim; every task that was
claimed takes its own course, and is counted by its end. -/
theorem batch_contained (P : Type) (worker : String) (config : Settings.Worker) :
    Contained P worker config where
  is_dialogue b table handler := (interpret_runOnce b table handler worker config).symm
  every_storage b table handler w := by
    rw [← interpret_runOnce b table handler]
    exact exists_path_run b table handler _ w
  claims_once path := by
    rcases path_runOnce.1 path with ⟨failure, rfl, rfl⟩ | ⟨ts, courses, each, rfl, rfl⟩
    · exact ⟨_, [], rfl, .refused failure⟩
    · obtain ⟨joint, same, held⟩ := sideBySide_of_courses each
      exact ⟨_, joint, by rw [same], .executed held⟩
  refused_iff run := by
    intro failure
    cases run with
    | refused failure' =>
      constructor
      · rintro ⟨⟩
        rfl
      · rintro ⟨⟩
        rfl
    | executed held => exact ⟨nofun, nofun⟩
  counted := batchRun_iff
  sum run := by
    obtain ⟨verdicts, length_eq, -, -, same⟩ := batchRun_iff.1 run
    cases same
    exact ⟨rfl, length_eq.symm.trans (length_eq_counts verdicts)⟩
  independent run₁ run₂ := by
    intro i j t₁ t₂ at₁ at₂ same
    obtain ⟨verdict₁, path₁⟩ := run₁.exists_path at₁
    obtain ⟨verdict₂, path₂⟩ := run₂.exists_path at₂
    rw [same] at path₁
    exact path₁.partAtAnswer path₂

end WorkQueue.Worker
