import WorkQueue.Proofs.Worker.Accounting
import WorkQueue.Proofs.Worker.Requests
import WorkQueue.Proofs.Worker.Sequential

/-!
# Batches and their schedules

If handlers answer from the task alone and keep their hands off the storage, the execution of a claimed
task passes a fixed sequence of milestones: its row, and what the log is told of it, are known in advance
at each of them. A step of one execution touches the row of its own task and tells the log of this task
only. So any two ways to interleave the executions of a batch come to the same end, among them the way
that executes one task after the other.

## Main definitions

* `Worker.Agent.Answers`: what is assumed of the handlers
* `Worker.Milestone`: the points that an execution passes
* `Worker.Recorded`: what a step leaves
* `Worker.Abreast`: a batch in which each execution is at a milestone
* `Worker.Agrees`: what is promised of a finished batch

## Main statements

* `Worker.Milestone.step`: a step leads from one milestone to the next
* `Worker.Milestone.unique`: the last milestone of a task is fixed
* `Worker.Abreast.interleave`: all interleavings keep executions at their milestones
* `Worker.batch_confluent`: a batch comes to the same end whatever the schedule
-/

namespace WorkQueue

open Simulation

namespace Memory

/-- What the log is told of a transition, given the row that it left. -/
def told (transition : Transition) (row : Task) : List (LogLevel × String) :=
  (transition.logLine? row).toList

/-- A claim stores and records what it takes, whatever it takes. -/
theorem run_claim_of_eq {worker : String} {limit : Nat} {w : World} {taken : List Task × State}
    (h : w.memory.state.claim worker limit w.clock = taken) :
    (claim worker limit : Sim (Outcome (List Task))).run w = StateT.run (do
      setRows taken.2
      for t in taken.1 do
        recordTransition writeLog .claim t
      return .ok taken.1) w := by
  subst h
  rfl

end Memory

namespace Worker

open Memory (State Log startedRow completedRow failedRow entryOf told)

variable {P : Type} {agent : Agent P} {answer : P → Task → HandlerResult} {s : State}
  {w w' w₁ w₂ : World} {now : Timestamp} {t row : Task} {id : Uuid} {e : Execution}
  {lines news : List (LogLevel × String)} {tasks : List Task} {batch batch' batch₁ batch₂ : Batch}
  {turn : Turn} {turns : List Turn}

/-! ### Handlers -/

/-- How a handler ends depends on nothing but the task that it is given, and it touches neither the rows
nor the log nor the clock. -/
structure Agent.Answers (agent : Agent P) (answer : P → Task → HandlerResult) : Prop where
  result : ∀ p t w, ((agent.process p t).run w).1 = answer p t
  memory : ∀ p t w, ((agent.process p t).run w).2.memory = w.memory
  clock : agent.KeepsClock

/-- What comes of a started task: the answer of the processor of its type, if there is one. -/
def Agent.resultOf (agent : Agent P) (answer : P → Task → HandlerResult) (t : Task) :
    Outcome Unit := do
  let p ← agent.processors.resolve t.taskType
  outcomeOf t.taskType (answer p t)

theorem Agent.Answers.handle (answers : agent.Answers answer) (t : Task) (w : World) :
    ((Execution.handle agent.resolve agent.process t).run w).1 = agent.resultOf answer t ∧
      ((Execution.handle agent.resolve agent.process t).run w).2.memory = w.memory := by
  have resolved : (agent.resolve t.taskType).run w =
      (agent.processors.resolve t.taskType, w) := rfl
  rw [Execution.handle, run_bind, resolved, Agent.resultOf]
  cases agent.processors.resolve t.taskType with
  | error failure => exact ⟨rfl, rfl⟩
  | ok p => exact ⟨congrArg (outcomeOf t.taskType) (answers.result p t w), answers.memory p t w⟩

/-! ### Milestones -/

/-- The points that the execution of a claimed task passes at an instant, each with the row of the task
and what the log has been told of it. A failure is recorded under the types of the rows `s`. -/
inductive Milestone (agent : Agent P) (answer : P → Task → HandlerResult) (s : State)
    (now : Timestamp) (t : Task) : Execution → Task → List (LogLevel × String) → Prop
  | claimed : Milestone agent answer s now t (.claimed t.id) t []
  | started : Milestone agent answer s now t (.started t.id (startedRow now t)) (startedRow now t)
      (told .start (startedRow now t))
  | handled : Milestone agent answer s now t
      (.handled t.id (agent.resultOf answer (startedRow now t))) (startedRow now t)
      (told .start (startedRow now t))
  | completed (succeeded : agent.resultOf answer (startedRow now t) = .ok ()) :
      Milestone agent answer s now t (.finished .completed) (completedRow now (startedRow now t))
        (told .start (startedRow now t) ++ told .complete (completedRow now (startedRow now t)))
  | failed {failure : Failure} {type : TaskType}
      (failed : agent.resultOf answer (startedRow now t) = .error failure)
      (known : s.findType? t.taskType = some type) :
      Milestone agent answer s now t (.finished .failed)
        (failedRow agent.policy type (lastErrorText failure) now (startedRow now t))
        (told .start (startedRow now t) ++ told (.fail (lastErrorText failure))
          (failedRow agent.policy type (lastErrorText failure) now (startedRow now t)))

namespace Milestone

/-- The last milestone of a task is fixed. -/
theorem unique {e' : Execution} {row' : Task} {lines' : List (LogLevel × String)}
    (first : Milestone agent answer s now t e row lines)
    (second : Milestone agent answer s now t e' row' lines')
    (ended : e.remaining = 0) (ended' : e'.remaining = 0) :
    e = e' ∧ row = row' ∧ lines = lines' := by
  cases first with
  | completed succeeded =>
    cases second with
    | completed => exact ⟨rfl, rfl, rfl⟩
    | failed failed => cases succeeded.symm.trans failed
    | claimed | started | handled => cases ended'
  | failed failed known =>
    cases second with
    | completed succeeded => cases succeeded.symm.trans failed
    | failed failed' known' =>
      obtain rfl := Except.error.inj (failed.symm.trans failed')
      obtain rfl := Option.some.inj (known.symm.trans known')
      exact ⟨rfl, rfl, rfl⟩
    | claimed | started | handled => cases ended'
  | claimed | started | handled => cases ended

/-- At the last milestone the task is completed, or has failed with a text that says why. -/
theorem ended (at_ : Milestone agent answer s now t e row lines) (ended : e.remaining = 0) :
    (e = .finished .completed ∧ row.status = .completed) ∨
      e = .finished .failed ∧ row.status = .failed ∧ row.lastError.isSome := by
  cases at_ with
  | completed => exact .inl ⟨rfl, rfl⟩
  | failed => exact .inr ⟨rfl, rfl, rfl⟩
  | claimed | started | handled => cases ended

end Milestone

/-! ### Steps -/

/-- What a step of the execution of a task leaves: the row of the task and some more lines in its log.
Nothing else has changed. -/
structure Recorded (w : World) (id : Uuid) (row : Task) (news : List (LogLevel × String))
    (w' : World) : Prop where
  found : w'.memory.state.find? id = some row
  others : ∀ other ≠ id, w'.memory.state.find? other = w.memory.state.find? other
  ids : w'.memory.state.tasks.map (·.id) = w.memory.state.tasks.map (·.id)
  types : w'.memory.state.types = w.memory.state.types
  edges : w'.memory.state.edges = w.memory.state.edges
  reliable : w.memory.log.Reliable → w'.memory.log.Reliable
  lines : w.memory.log.Reliable → w'.memory.log.lines id = w.memory.log.lines id ++ news
  silent : w.memory.log.Reliable → ∀ other ≠ id,
    w'.memory.log.lines other = w.memory.log.lines other

namespace Recorded

theorem of_kept (kept : w'.memory = w.memory) (found : w.memory.state.find? id = some row) :
    Recorded w id row [] w' := by
  constructor <;> simp [kept, found]

/-- A transition replaces the row of its task and tells the log of it. -/
theorem of_written {transition : Transition} {old : Task}
    (found : w.memory.state.find? row.id = some old)
    (rows : w'.memory.state = w.memory.state.put row)
    (log : w'.memory.log = w.memory.log.writeAll (entryOf transition row).toList w.clock) :
    Recorded w row.id row (told transition row) w' := by
  have entry : ∀ {id : Uuid}, ((entryOf transition row).toList.filter fun e => e.task = id).map
      (fun e => (e.level, e.message)) = if row.id = id then told transition row else [] := by
    intro id
    unfold entryOf told
    cases transition.logLine? row with
    | none => simp
    | some line => by_cases own : row.id = id <;> simp [own]
  constructor
  · rw [rows, State.find?_put_self found]
  · intro other ne
    rw [rows, State.find?_put_of_ne ne]
  · rw [rows, State.ids_put]
  · rw [rows, State.put_types]
  · rw [rows, State.put_edges]
  · intro reliable
    rw [log]
    exact reliable.writeAll
  · intro reliable
    rw [log, reliable.lines_writeAll, entry, if_pos rfl]
  · intro reliable other ne
    rw [log, reliable.lines_writeAll, entry, if_neg ne.symm, List.append_nil]

end Recorded

/-- A step whose call leaves a row goes on from there, and the log is told of the transition. -/
theorem step_recorded (agent : Agent P) (e : Execution) {call : Memory.Call}
    {transition : Transition} {old : Task} (asks : e.call? w.clock = some call)
    (about : call.transition? = some transition)
    (served : w.memory.state.serve agent.policy call = (.task row, w.memory.state.put row))
    (found : w.memory.state.find? row.id = some old) :
    ((agent.step e).run w).1 = e.resume (.task row) ∧
      Recorded w row.id row (told transition row) ((agent.step e).run w).2 := by
  obtain ⟨next, rows⟩ := step_of_served agent e asks served
  have log := log_of_call agent asks
  have entries : Memory.Exchange.written ⟨call, .task row⟩ = (entryOf transition row).toList := by
    rw [Memory.Exchange.written, about]
    exact (Memory.filterMap_entryOf_cons transition row []).trans (List.append_nil _)
  rw [served, entries] at log
  exact ⟨next, .of_written found rows log⟩

/-- A step leads from one milestone to the next. -/
theorem Milestone.step (answers : agent.Answers answer)
    (at_ : Milestone agent answer s w.clock t e row lines) (unfinished : 0 < e.remaining)
    (found : w.memory.state.find? t.id = some row) (status : t.status = .claimed)
    (known : ∃ type, s.findType? t.taskType = some type)
    (types : w.memory.state.types = s.types) : ∃ row' news,
      Milestone agent answer s w.clock t ((agent.step e).run w).1 row' (lines ++ news) ∧
        Recorded w t.id row' news ((agent.step e).run w).2 := by
  cases at_ with
  | claimed =>
    have served : w.memory.state.serve agent.policy (.start t.id w.clock) = _ :=
      State.serve_start found status
    obtain ⟨next, recorded⟩ := step_recorded agent (.claimed t.id) rfl rfl served found
    rw [next]
    exact ⟨_, _, .started, recorded⟩
  | started =>
    obtain ⟨result, kept⟩ := answers.handle (startedRow w.clock t) w
    have next : ((agent.step (.started t.id (startedRow w.clock t))).run w).1 =
        .handled t.id (agent.resultOf answer (startedRow w.clock t)) :=
      congrArg (Execution.handled t.id) result
    refine ⟨startedRow w.clock t, [], ?_, .of_kept kept found⟩
    rw [next, List.append_nil]
    exact .handled
  | handled =>
    cases result : agent.resultOf answer (startedRow w.clock t) with
    | ok _ =>
      have served : w.memory.state.serve agent.policy (.complete t.id w.clock) = _ :=
        State.serve_complete found rfl
      obtain ⟨next, recorded⟩ := step_recorded agent (.handled t.id (.ok ())) rfl rfl served found
      rw [next]
      exact ⟨_, _, .completed result, recorded⟩
    | error failure =>
      obtain ⟨type, known⟩ := known
      have known' : w.memory.state.findType? (startedRow w.clock t).taskType = some type := by
        rw [State.findType?, types]
        exact known
      have served : w.memory.state.serve agent.policy
          (.fail t.id (lastErrorText failure) w.clock) = _ := State.serve_fail found rfl known'
      obtain ⟨next, recorded⟩ :=
        step_recorded agent (.handled t.id (.error failure)) rfl rfl served found
      rw [next]
      exact ⟨_, _, .failed result known, recorded⟩
  | completed | failed => exact absurd unfinished (Nat.lt_irrefl 0)

/-! ### Batches -/

/-- Each execution of a batch is at a milestone of its task, seen from the world in which the tasks had
just been claimed. -/
structure Abreast (agent : Agent P) (answer : P → Task → HandlerResult) (now : Timestamp)
    (tasks : List Task) (w₁ w : World) (batch : Batch) : Prop where
  keys : batch.map (·.1) = tasks.map (·.id)
  milestone : ∀ t ∈ tasks, ∀ e, (t.id, e) ∈ batch → ∃ row lines,
    Milestone agent answer w₁.memory.state now t e row lines ∧
      w.memory.state.find? t.id = some row ∧
      (w₁.memory.log.Reliable → w.memory.log.lines t.id = w₁.memory.log.lines t.id ++ lines)
  others : ∀ id ∉ tasks.map (·.id), w.memory.state.find? id = w₁.memory.state.find? id ∧
    (w₁.memory.log.Reliable → w.memory.log.lines id = w₁.memory.log.lines id)
  ids : w.memory.state.tasks.map (·.id) = w₁.memory.state.tasks.map (·.id)
  types : w.memory.state.types = w₁.memory.state.types
  edges : w.memory.state.edges = w₁.memory.state.edges
  reliable : w₁.memory.log.Reliable → w.memory.log.Reliable

/-- Rows that have just been claimed: stored under identifiers of their own, and of known types. -/
structure JustClaimed (s : State) (tasks : List Task) : Prop where
  nodup : (tasks.map (·.id)).Nodup
  found : ∀ t ∈ tasks, s.find? t.id = some t
  status : ∀ t ∈ tasks, t.status = .claimed
  known : ∀ t ∈ tasks, ∃ type, s.findType? t.taskType = some type

theorem justClaimed_of_claim (hs : s.Keyed) (worker : String) (limit : Nat) (now : Timestamp) :
    JustClaimed (s.claim worker limit now).2 (s.claim worker limit now).1 := by
  have nodup : ((s.claim worker limit now).1.map (·.id)).Nodup := by
    rw [State.ids_claim]
    exact State.nodup_candidates hs
  refine ⟨nodup, fun t ht => ?_, fun t ht => ?_, fun t ht => ?_⟩
  · obtain ⟨old, found, -⟩ := State.mem_claim hs ht
    rw [State.claim_snd, State.find?_foldl_put nodup ht found]
  · obtain ⟨old, -, -, rfl⟩ := State.mem_claim hs ht
    rfl
  · obtain ⟨old, -, claimable, rfl⟩ := State.mem_claim hs ht
    obtain ⟨type, known, -⟩ := State.isClaimable_iff.1 claimable
    rw [State.claim_snd, State.findType?, State.foldl_put_types]
    exact ⟨type, known⟩

theorem justClaimed_of_run (keyed : w.memory.state.Keyed) {worker : String} {limit : Nat}
    (claimed : (agent.storage.claim worker limit).run w = (.ok tasks, w₁)) :
    JustClaimed w₁.memory.state tasks ∧ w₁.memory.state.Keyed ∧
      (w.memory.log.Reliable → w₁.memory.log.Reliable) := by
  obtain ⟨w', run, logged⟩ := Memory.run_claim worker limit w
  have run : (agent.storage.claim worker limit).run w = _ := run
  obtain ⟨tasks_eq, rfl⟩ := Prod.mk.inj (claimed.symm.trans run)
  obtain rfl := Except.ok.inj tasks_eq
  have log : w₁.memory.log = _ :=
    (congrArg (fun result => result.2.memory.log) claimed).symm.trans
      (@Memory.serves_claim agent.policy w worker limit).log
  refine ⟨?_, ?_, fun reliable => ?_⟩
  · rw [logged.rows]
    exact justClaimed_of_claim keyed worker limit w.clock
  · rw [logged.rows]
    exact keyed.foldl_put
  · rw [log]
    exact reliable.writeAll

theorem abreast_batchOf (agent : Agent P) (answer : P → Task → HandlerResult) (now : Timestamp)
    (claimed : JustClaimed w.memory.state tasks) :
    Abreast agent answer now tasks w w (batchOf tasks) where
  keys := by simp [batchOf, Function.comp_def]
  milestone t ht e he := by
    obtain ⟨t', -, pair_eq⟩ := List.mem_map.1 he
    obtain ⟨id_eq, rfl⟩ := Prod.mk.inj pair_eq
    rw [id_eq]
    exact ⟨t, [], .claimed, claimed.found t ht, fun _ => (List.append_nil _).symm⟩
  others _ _ := ⟨rfl, fun _ => rfl⟩
  ids := rfl
  types := rfl
  edges := rfl
  reliable := id

namespace Abreast

/-- A step of one execution takes it to its next milestone and leaves the others where they are. -/
theorem advance (abreast : Abreast agent answer now tasks w₁ w batch)
    (answers : agent.Answers answer) (claimed : JustClaimed w₁.memory.state tasks)
    (next : Advance agent (· = now) w batch turn w₂ batch₂) :
    Abreast agent answer now tasks w₁ w₂ batch₂ := by
  obtain @⟨before, after, id, e, clock, rfl, unfinished⟩ := next
  have keys := abreast.keys
  have nodup := claimed.nodup
  rw [← keys] at nodup
  have member : id ∈ tasks.map (·.id) := by
    rw [← keys]
    simp
  obtain ⟨t, ht, rfl⟩ := List.mem_map.1 member
  obtain ⟨row, lines, at_, found, told⟩ :=
    abreast.milestone t ht e (List.mem_append_right _ List.mem_cons_self)
  obtain ⟨row', news, at', recorded⟩ := Milestone.step (w := w.withClock clock) answers at_
    unfinished found (claimed.status t ht) (claimed.known t ht) abreast.types
  generalize (agent.step e).run (w.withClock clock) = result at at' recorded ⊢
  constructor
  · rw [← keys]
    simp
  · intro other hother e' he'
    have split : (other.id, e') = (t.id, result.1) ∨
        (other.id, e') ∈ before ∨ (other.id, e') ∈ after := by
      simpa [or_left_comm] using he'
    rcases split with same | another
    · obtain ⟨id_eq, rfl⟩ := Prod.mk.inj same
      obtain rfl := List.inj_on_of_nodup_map claimed.nodup hother ht id_eq
      refine ⟨row', lines ++ news, at', recorded.found, fun reliable => ?_⟩
      rw [← List.append_assoc, ← told reliable]
      exact recorded.lines (abreast.reliable reliable)
    · -- it is the execution of another task, whose row and log the step has not touched
      have ne : other.id ≠ t.id := Batch.ne_of_nodup nodup another
      have inside : (other.id, e') ∈ before ++ (t.id, e) :: after :=
        List.mem_append.2 (another.imp_right (List.mem_cons_of_mem _))
      obtain ⟨row, lines, at_, found, told⟩ := abreast.milestone other hother e' inside
      refine ⟨row, lines, at_, (recorded.others _ ne).trans found, fun reliable => ?_⟩
      exact (recorded.silent (abreast.reliable reliable) _ ne).trans (told reliable)
  · intro other outside
    obtain ⟨found, told⟩ := abreast.others other outside
    have ne : other ≠ t.id := by
      rintro rfl
      exact outside member
    refine ⟨(recorded.others _ ne).trans found, fun reliable => ?_⟩
    exact (recorded.silent (abreast.reliable reliable) _ ne).trans (told reliable)
  · exact recorded.ids.trans abreast.ids
  · exact recorded.types.trans abreast.types
  · exact recorded.edges.trans abreast.edges
  · exact fun reliable => recorded.reliable (abreast.reliable reliable)

theorem interleave (abreast : Abreast agent answer now tasks w₁ w batch)
    (answers : agent.Answers answer) (claimed : JustClaimed w₁.memory.state tasks)
    (steps : Interleaving agent (· = now) w batch turns w₂ batch₂) :
    Abreast agent answer now tasks w₁ w₂ batch₂ := by
  induction steps with
  | nil => exact abreast
  | snoc _ next ih => exact ih.advance answers claimed next

/-- What is left of a task is fixed once its execution has ended. -/
theorem agree {w₃ : World} (first : Abreast agent answer now tasks w₁ w₂ batch₂)
    (second : Abreast agent answer now tasks w₁ w₃ batch) (ended₂ : batch₂.Finished)
    (ended : batch.Finished) (ht : t ∈ tasks) {e e' : Execution} (he : (t.id, e) ∈ batch₂)
    (he' : (t.id, e') ∈ batch) : e = e' ∧
      w₂.memory.state.find? t.id = w₃.memory.state.find? t.id ∧
      (w₁.memory.log.Reliable → w₂.memory.log.lines t.id = w₃.memory.log.lines t.id) := by
  obtain ⟨row, lines, at_, found, told⟩ := first.milestone t ht e he
  obtain ⟨row', lines', at', found', told'⟩ := second.milestone t ht e' he'
  obtain ⟨same, rfl, rfl⟩ := at_.unique at' (ended₂ _ he) (ended _ he')
  refine ⟨same, found.trans found'.symm, fun reliable => ?_⟩
  rw [told reliable, told' reliable]

theorem exists_execution (abreast : Abreast agent answer now tasks w₁ w batch) (ht : t ∈ tasks) :
    ∃ e, (t.id, e) ∈ batch := by
  have member : t.id ∈ batch.map (·.1) := by
    rw [abreast.keys]
    exact List.mem_map_of_mem ht
  obtain ⟨⟨id, e⟩, he, rfl⟩ := List.mem_map.1 member
  exact ⟨e, he⟩

theorem batch_eq {w₃ : World} (first : Abreast agent answer now tasks w₁ w₂ batch₂)
    (second : Abreast agent answer now tasks w₁ w₃ batch) (ended₂ : batch₂.Finished)
    (ended : batch.Finished) : batch₂ = batch := by
  have keys := first.keys.trans second.keys.symm
  have length_eq : batch₂.length = batch.length := by simpa using congrArg List.length keys
  refine List.ext_getElem length_eq fun i inside inside' => ?_
  have key_eq : batch₂[i].1 = batch[i].1 := by
    have same := congrArg (fun l => l[i]?) keys
    simpa [inside, inside'] using same
  have member : batch₂[i].1 ∈ tasks.map (·.id) := by
    rw [← first.keys]
    exact List.mem_map_of_mem (List.getElem_mem inside)
  obtain ⟨t, ht, id_eq⟩ := List.mem_map.1 member
  have left : (t.id, batch₂[i].2) ∈ batch₂ := id_eq ▸ List.getElem_mem inside
  have right : (t.id, batch[i].2) ∈ batch := id_eq ▸ key_eq ▸ List.getElem_mem inside'
  exact Prod.ext key_eq (first.agree second ended₂ ended ht left right).1

/-- Two finished batches have left the same rows and have told the same. -/
theorem memory_eq {w₃ : World} (first : Abreast agent answer now tasks w₁ w₂ batch₂)
    (second : Abreast agent answer now tasks w₁ w₃ batch) (ended₂ : batch₂.Finished)
    (ended : batch.Finished) (keyed : w₁.memory.state.Keyed) :
    w₂.memory.state = w₃.memory.state ∧
      (w₁.memory.log.Reliable → ∀ id, w₂.memory.log.lines id = w₃.memory.log.lines id) := by
  -- a task of the batch is at its last milestone in both, and any other was touched in neither
  have same : ∀ id, w₂.memory.state.find? id = w₃.memory.state.find? id ∧
      (w₁.memory.log.Reliable → w₂.memory.log.lines id = w₃.memory.log.lines id) := by
    intro id
    by_cases member : id ∈ tasks.map (·.id)
    · obtain ⟨t, ht, rfl⟩ := List.mem_map.1 member
      obtain ⟨e, he⟩ := first.exists_execution ht
      obtain ⟨e', he'⟩ := second.exists_execution ht
      exact (first.agree second ended₂ ended ht he he').2
    · obtain ⟨found, told⟩ := first.others id member
      obtain ⟨found', told'⟩ := second.others id member
      exact ⟨found.trans found'.symm, fun reliable => (told reliable).trans (told' reliable).symm⟩
  have keyed₃ : w₃.memory.state.Keyed := by
    rw [State.Keyed, second.ids]
    exact keyed
  have rows := State.tasks_eq_of_find?_eq keyed₃ (first.ids.trans second.ids.symm)
    fun id => (same id).1
  have types := first.types.trans second.types.symm
  have edges := first.edges.trans second.edges.symm
  refine ⟨?_, fun reliable id => (same id).2 reliable⟩
  generalize w₂.memory.state = s₂ at rows types edges ⊢
  generalize w₃.memory.state = s₃ at rows types edges ⊢
  cases s₂
  cases s₃
  cases rows
  cases types
  cases edges
  rfl

/-- Every claimed task ends completed, or failed with a text that says why. -/
theorem ended (abreast : Abreast agent answer now tasks w₁ w batch) (finished : batch.Finished)
    (ht : t ∈ tasks) : ∃ row, w.memory.state.find? t.id = some row ∧
      (row.status = .completed ∨ row.status = .failed ∧ row.lastError.isSome) := by
  obtain ⟨e, he⟩ := abreast.exists_execution ht
  obtain ⟨row, lines, at_, found, -⟩ := abreast.milestone t ht e he
  exact ⟨row, found, (at_.ended (finished _ he)).imp And.right And.right⟩

theorem skipped_eq_zero (abreast : Abreast agent answer now tasks w₁ w batch)
    (finished : batch.Finished) : batch.tally.skipped = 0 := by
  have none_skipped : Worker.ended .skipped (Assignment.entries ⟨agent.worker, batch⟩) = [] := by
    rw [Worker.ended, List.map_eq_nil_iff, List.filter_eq_nil_iff]
    rintro entry hentry
    obtain ⟨⟨id, e⟩, he, rfl⟩ := List.mem_map.1 hentry
    have member : id ∈ tasks.map (·.id) := by
      rw [← abreast.keys]
      exact List.mem_map_of_mem he
    obtain ⟨t, ht, rfl⟩ := List.mem_map.1 member
    obtain ⟨row, lines, at_, -, -⟩ := abreast.milestone t ht e he
    rcases at_.ended (finished _ he) with ⟨rfl, -⟩ | ⟨rfl, -⟩
    · simp [Execution.verdict?]
    · simp [Execution.verdict?]
  have count := count_tally ⟨agent.worker, batch⟩ .skipped
  rw [none_skipped] at count
  exact count

end Abreast

/-! ### Schedules -/

/-- What is promised of a finished batch: it has come to what executing the claimed tasks one after the
other comes to, from the world `start` in which they were claimed. -/
structure Agrees (agent : Agent P) (start : World) (tasks : List Task) (w : World)
    (batch : Batch) : Prop where
  outcome : (agent.runOnce.run start).1 = .ok batch.tally
  rows : w.memory.state = (agent.runOnce.run start).2.memory.state
  lines : start.memory.log.Reliable → ∀ id,
    w.memory.log.lines id = (agent.runOnce.run start).2.memory.log.lines id
  ended : ∀ t ∈ tasks, ∃ row, w.memory.state.find? t.id = some row ∧
    (row.status = .completed ∨ row.status = .failed ∧ row.lastError.isSome)
  skipped : batch.tally.skipped = 0

/-- A batch is claimed at an instant, from any rows and in whatever order they are visited. Then every
way to interleave the steps of its executions is short and can be continued to its end, and at its end
it agrees with executing the tasks one after the other. -/
theorem batch_confluent (answers : agent.Answers answer) (keyed : w.memory.state.Keyed)
    {order : List Task} (perm : order.Perm w.memory.state.tasks) (now : Timestamp) : ∃ tasks w₁,
    (agent.storage.claim agent.worker agent.config.batchSize).run (w.seen now order) =
        (.ok tasks, w₁) ∧
      ∀ turns w₂ batch, Interleaving agent (· = now) w₁ (batchOf tasks) turns w₂ batch →
        turns.length ≤ 3 * tasks.length ∧
          (∃ more w₃ batch', Interleaving agent (· = now) w₂ batch more w₃ batch' ∧
            batch'.Finished) ∧
          (batch.Finished → Agrees agent (w.seen now order) tasks w₂ batch) := by
  obtain ⟨tasks, turns₀, w₁, w₀, batch₀, claimed, serial, finished₀, outcome, kept⟩ :=
    @runOnce_cases P agent (· = now) (w.seen now order) answers.clock rfl
  refine ⟨tasks, w₁, claimed, fun turns w₂ batch steps => ⟨steps.length_le, ?_, fun finished => ?_⟩⟩
  · exact Interleaving.exists_end agent (⟨now, rfl⟩ : ∃ n, n = now) w₂ batch
  have visited : (w.seen now order).memory.state.Keyed := keyed.visiting perm
  obtain ⟨justClaimed, keyed₁, reliable₁⟩ := justClaimed_of_run visited claimed
  have start := abreast_batchOf agent answer now justClaimed
  have here := start.interleave answers justClaimed steps
  have there := start.interleave answers justClaimed serial
  obtain ⟨rows, lines⟩ := here.memory_eq there finished finished₀ keyed₁
  have same : batch = batch₀ := here.batch_eq there finished finished₀
  constructor
  · rw [outcome, same]
  · rw [kept, rows]
  · intro reliable id
    rw [kept, lines (reliable₁ reliable)]
  · exact fun t ht => here.ended finished ht
  · exact here.skipped_eq_zero finished

/-- A worker whose processors stand for the results of their handlers: mail is sent, calls fail. -/
def desk : Agent HandlerResult where
  policy := {}
  worker := "a"
  config := {}
  processors := ⟨[("mail", .succeeded), ("call", .failed "busy")]⟩
  process p _ := return p

def mailAndCall : List Memory.Call :=
  [.upsertType ⟨"mail", 2, 0, none⟩ .epoch, .upsertType ⟨"call", 2, 5, none⟩ .epoch,
    .enqueue { taskType := "mail", payload := .null } ⟨1⟩ .epoch,
    .enqueue { taskType := "call", payload := .null } ⟨2⟩ .epoch]

/-- The world in which the mail and the call are waiting, and a claim sees the call first. -/
def waitingWorld : World :=
  let posted := emptyWorld.withRows (Memory.replay {} {} mailAndCall).2
  posted.seen .epoch posted.memory.state.tasks.reverse

/-- Both tasks are claimable, and since they have equal keys they are claimed as they are visited. -/
theorem claim_waitingWorld :
    waitingWorld.memory.state.claim "a" desk.config.batchSize waitingWorld.clock =
      (waitingWorld.memory.state.tasks.map (State.claimedRow "a" .epoch),
        (waitingWorld.memory.state.tasks.map (State.claimedRow "a" .epoch)).foldl State.put
          waitingWorld.memory.state) := by
  have all : waitingWorld.memory.state.tasks.filter
      (waitingWorld.memory.state.isClaimable waitingWorld.clock) =
        waitingWorld.memory.state.tasks := List.filter_eq_self.2 (by decide +kernel)
  have sorted : Task.sortForClaim waitingWorld.memory.state.tasks =
      waitingWorld.memory.state.tasks := List.mergeSort_of_pairwise (by decide +kernel)
  have few : waitingWorld.memory.state.tasks.length ≤ desk.config.batchSize := by decide +kernel
  rw [State.claim, State.candidates, all, sorted, List.take_of_length_le few]
  rfl

/-- The mail is started between the start of the call and its handler, and is completed before the call
has failed. -/
theorem batch_confluent_of_mailAndCall : ∃ tasks w₂ batch,
    tasks.map (·.id) = [⟨2⟩, ⟨1⟩] ∧ batch.Finished ∧ batch.tally = ⟨2, 1, 1, 0⟩ ∧
      Agrees desk waitingWorld tasks w₂ batch := by
  have answers : desk.Answers fun p _ => p := ⟨fun _ _ _ => rfl, fun _ _ _ => rfl, fun _ _ _ => rfl⟩
  let posted := emptyWorld.withRows (Memory.replay {} {} mailAndCall).2
  have keyed : posted.memory.state.Keyed := by
    unfold State.Keyed
    decide +kernel
  obtain ⟨tasks, w₁, claimed, schedules⟩ :=
    batch_confluent answers keyed (List.reverse_perm _) .epoch
  have run : (desk.storage.claim desk.worker desk.config.batchSize).run waitingWorld = _ :=
    Memory.run_claim_of_eq claim_waitingWorld
  obtain ⟨tasks_eq, rfl⟩ := Prod.mk.inj (claimed.symm.trans run)
  obtain rfl := Except.ok.inj tasks_eq
  have ids : (waitingWorld.memory.state.tasks.map (State.claimedRow "a" .epoch)).map (·.id) =
      [⟨2⟩, ⟨1⟩] := by decide +kernel
  have batch_eq : batchOf (waitingWorld.memory.state.tasks.map (State.claimedRow "a" .epoch)) =
      [(⟨2⟩, .claimed ⟨2⟩), (⟨1⟩, .claimed ⟨1⟩)] := by
    rw [batchOf_eq, ids]
    rfl
  rw [batch_eq] at schedules
  have step (w : World) (before after : Batch) (id : Uuid) (e : Execution)
      (unfinished : 0 < e.remaining) :=
    @Advance.intro HandlerResult desk (· = .epoch) w before after id e .epoch rfl unfinished
  -- from the last step back to the first one
  have agrees := (schedules _ _ _
    (.snoc (.snoc (.snoc (.snoc (.snoc (.snoc .nil
      (step _ [] [_] ⟨2⟩ (.claimed ⟨2⟩) (by decide)))
      (step _ [_] [] ⟨1⟩ (.claimed ⟨1⟩) (by decide)))
      (step _ [_] [] ⟨1⟩ _ (by decide +kernel)))
      (step _ [] [_] ⟨2⟩ _ (by decide +kernel)))
      (step _ [_] [] ⟨1⟩ _ (by decide +kernel)))
      (step _ [] [_] ⟨2⟩ _ (by decide +kernel)))).2.2
  exact ⟨_, _, _, ids, by decide +kernel, by decide +kernel, agrees (by decide +kernel)⟩

end Worker

end WorkQueue
