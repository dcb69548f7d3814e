import WorkQueue.Proofs.Memory.Notes
import WorkQueue.Proofs.Memory.Replies

/-!
# Calls and their log entries

Every operation that may change the rows replies and changes them as its call does when it is served,
and then writes the entries of its transitions. Only the log says in which order they were written.

## Main definitions

* `Memory.Log.writeAll`, `Memory.Log.lines`: several writes, and what the log says of a task
* `Memory.Exchange.written`: the entries that a served call writes
* `Memory.Request`, `Memory.Request.call`: an operation to be run, and the call that it makes
* `Memory.Serves`: an operation that serves a call and writes its entries

## Main statements

* `Memory.Log.Reliable.lines_writeAll`: what several writes add to what the log says
* `Memory.Step.lines_written`: what a step writes of a task is what there is to tell of it
* `Memory.Request.serves`: running a request serves its call
-/

namespace WorkQueue.Memory

open Simulation

variable {policy : Backoff.Policy} {s s' : State} {x : Exchange} {id : Uuid} {t : Task} {w : World}
  {log : Log} {news : List NewLogEntry} {now : Timestamp}

/-! ### The log -/

/-- The log after several writes. -/
def Log.writeAll (log : Log) (news : List NewLogEntry) (now : Timestamp) : Log :=
  news.foldl (fun log entry => (log.write entry now).2) log

theorem Log.writeAll_append (log : Log) (first second : List NewLogEntry) (now : Timestamp) :
    log.writeAll (first ++ second) now = (log.writeAll first now).writeAll second now :=
  List.foldl_append

/-- No access fails. -/
def Log.Reliable (log : Log) : Prop := ∀ n, log.trouble n = none

/-- Later entries have larger numbers, and the next number is larger still. -/
structure Log.Numbered (log : Log) : Prop where
  increasing : log.entries.Pairwise fun a b => a.id < b.id
  le_length : ∀ e ∈ log.entries, e.id ≤ log.entries.length

/-- The levels and texts of the entries of a task. -/
def Log.lines (log : Log) (id : Uuid) : List (LogLevel × String) :=
  (log.entries.filter fun e => e.task = id).map fun e => (e.level, e.message)

/-- The log after one more entry. -/
def Log.append (log : Log) (entry : NewLogEntry) (now : Timestamp) : Log :=
  { log with
    entries := log.entries ++
      [⟨log.entries.length + 1, entry.task, entry.level, entry.message, now⟩]
    accesses := log.accesses + 1 }

namespace Log.Reliable

theorem write (reliable : log.Reliable) (entry : NewLogEntry) (now : Timestamp) :
    (log.write entry now).2 = log.append entry now := by
  rw [Log.write, reliable]
  rfl

theorem writeAll_cons (reliable : log.Reliable) (entry : NewLogEntry) (news : List NewLogEntry)
    (now : Timestamp) :
    log.writeAll (entry :: news) now = (log.append entry now).writeAll news now := by
  rw [← reliable.write]
  rfl

theorem append (reliable : log.Reliable) (entry : NewLogEntry) (now : Timestamp) :
    (log.append entry now).Reliable := reliable

theorem writeAll (reliable : log.Reliable) : (log.writeAll news now).Reliable := by
  induction news generalizing log with
  | nil => exact reliable
  | cons entry news ih =>
    rw [reliable.writeAll_cons]
    exact ih (reliable.append entry now)

end Log.Reliable

theorem Log.Numbered.append (numbered : log.Numbered) (entry : NewLogEntry) (now : Timestamp) :
    (log.append entry now).Numbered := by
  constructor
  · refine List.pairwise_append.2 ⟨numbered.increasing, List.pairwise_singleton _ _, ?_⟩
    intro e he new hnew
    obtain rfl := List.mem_singleton.1 hnew
    exact Int.lt_add_one_of_le (numbered.le_length e he)
  · intro e he
    have length : ((log.append entry now).entries.length : Int) = log.entries.length + 1 := by
      simp [Log.append]
    rw [length]
    rcases List.mem_append.1 he with he | he
    · exact Int.le_trans (numbered.le_length e he) (Int.le_add_one (Int.le_refl _))
    · obtain rfl := List.mem_singleton.1 he
      exact Int.le_refl _

theorem Log.Numbered.writeAll (numbered : log.Numbered) (reliable : log.Reliable) :
    (log.writeAll news now).Numbered := by
  induction news generalizing log with
  | nil => exact numbered
  | cons entry news ih =>
    rw [reliable.writeAll_cons]
    exact ih (numbered.append entry now) (reliable.append entry now)

/-- Writes add their own lines to what the log says of a task. -/
theorem Log.Reliable.lines_writeAll (reliable : log.Reliable) (id : Uuid) :
    (log.writeAll news now).lines id = log.lines id ++
      (news.filter fun e => e.task = id).map fun e => (e.level, e.message) := by
  induction news generalizing log with
  | nil => exact (List.append_nil _).symm
  | cons entry news ih =>
    rw [reliable.writeAll_cons, ih (reliable.append entry now)]
    by_cases own : entry.task = id
    · simp [Log.lines, Log.append, own]
    · simp [Log.lines, Log.append, own]

/-! ### What a served call writes -/

/-- The transition that a call asks for. -/
def Call.transition? : Call → Option Transition
  | .claim .. => some .claim
  | .start .. => some .start
  | .complete .. => some .complete
  | .fail _ message _ => some (.fail message)
  | .cancel .. => some .cancel
  | _ => none

def Reply.rows : Reply → List Task
  | .task t => [t]
  | .tasks ts => ts
  | _ => []

/-- The entry of a transition, given the row that it left. -/
def entryOf (transition : Transition) (t : Task) : Option NewLogEntry :=
  (transition.logLine? t).map fun line => ⟨t.id, line.1, line.2⟩

/-- The entries that a served call writes, one after the other. -/
def Exchange.written (x : Exchange) : List NewLogEntry :=
  x.call.transition?.elim [] fun transition => x.reply.rows.filterMap (entryOf transition)

theorem filterMap_entryOf_cons (transition : Transition) (t : Task) (ts : List Task) :
    (t :: ts).filterMap (entryOf transition) =
      (entryOf transition t).toList ++ ts.filterMap (entryOf transition) := by
  rw [List.filterMap_cons]
  cases entryOf transition t <;> rfl

theorem lines_written_claim {worker : String} {ts : List Task}
    (named : ∀ t ∈ ts, t.claimedBy = some worker) (limit : Nat) (now : Timestamp) (id : Uuid) :
    ((Exchange.written ⟨.claim worker limit now, .tasks ts⟩).filter fun e => e.task = id).map
        (fun e => (e.level, e.message)) =
      (Exchange.notes ⟨.claim worker limit now, .tasks ts⟩ id).map Note.line := by
  have written : ts.filterMap (entryOf .claim) = ts.map fun t =>
      ⟨t.id, .info, s!"Claimed by {worker} for attempt {t.attempts + 1}"⟩ := by
    rw [← List.filterMap_eq_map]
    refine List.filterMap_congr fun t ht => ?_
    simp [entryOf, Transition.logLine?, named t ht]
  show ((ts.filterMap (entryOf .claim)).filter fun e => e.task = id).map _ =
    (((ts.filter fun t => t.id = id).map fun t => (Action.claim, t)).filterMap fun m =>
      some (Note.claimed worker (m.2.attempts + 1))).map Note.line
  rw [written]
  simp [List.filter_map, Function.comp_def, Note.line]

theorem lines_written_subject {call : Call} {subject : Uuid} {action : Action}
    (h : call.subject? = some (subject, action)) (same : t.id = subject) (id : Uuid) :
    ((Exchange.written ⟨call, .task t⟩).filter fun e => e.task = id).map
        (fun e => (e.level, e.message)) = (Exchange.notes ⟨call, .task t⟩ id).map Note.line := by
  rw [Exchange.notes, moves_subject h, ← same]
  cases call with
  | start | complete | cancel =>
    by_cases own : t.id = id <;>
      simp [Exchange.written, Call.transition?, Reply.rows, entryOf, Transition.logLine?, Call.note?,
        Note.line, own]
  | fail subject message now =>
    cases retry : t.nextAttemptAt <;> by_cases own : t.id = id <;>
      simp [Exchange.written, Call.transition?, Reply.rows, entryOf, Transition.logLine?, Call.note?,
        Note.line, Task.failureLine, retry, own]
  | _ => simp [Call.subject?] at h

/-- What a step writes of a task is what there is to tell of it. -/
theorem Step.lines_written (step : Step policy s x s') (hs : s.Keyed) (id : Uuid) :
    (x.written.filter fun e => e.task = id).map (fun e => (e.level, e.message)) =
      (x.notes id).map Note.line := by
  obtain ⟨order, perm, -, c⟩ := step.change
  obtain ⟨call, reply⟩ := x
  cases c with
  | refused call failure =>
    rw [Exchange.notes, moves_refused]
    cases call <;> rfl
  | enqueued | chained | linkedBefore | linked | registered => rfl
  | claimed worker limit now =>
    refine lines_written_claim (fun t ht => ?_) limit now id
    obtain ⟨old, -, -, row⟩ := State.mem_claim (hs.visiting perm) ht
    rw [row]
    rfl
  | moved subject found move =>
    exact lines_written_subject subject (move.id_eq.trans (State.id_of_find? found)) id

/-! ### Requests -/

/-- An operation that may change the rows. -/
inductive Request where
  | enqueue (spec : NewTask)
  | createChain (specs : List NewTask)
  | addDependency (task prerequisite : Uuid)
  | upsertType (type : NewTaskType)
  | claim (worker : String) (limit : Nat)
  | start (id : Uuid)
  | complete (id : Uuid)
  | fail (id : Uuid) (message : String)
  | cancel (id : Uuid)

/-- The call that a request makes: it reads the clock and draws identifiers. -/
def Request.call (w : World) : Request → Call
  | .enqueue spec => .enqueue spec ((Host.freshId : Sim Uuid).run w).1 w.clock
  | .createChain specs => .createChain specs (drawnIds specs w) w.clock
  | .addDependency task prerequisite => .addDependency task prerequisite w.clock
  | .upsertType type => .upsertType type w.clock
  | .claim worker limit => .claim worker limit w.clock
  | .start id => .start id w.clock
  | .complete id => .complete id w.clock
  | .fail id message => .fail id message w.clock
  | .cancel id => .cancel id w.clock

def Reply.ofOutcome {α : Type} (reply : α → Reply) : Outcome α → Reply
  | .error failure => .refused failure
  | .ok result => reply result

/-- Runs a request on the storage. -/
def Request.run (policy : Backoff.Policy) : Request → Sim Reply
  | .enqueue spec => return .ofOutcome .task (← (backend policy).enqueue spec)
  | .createChain specs => return .ofOutcome .tasks (← (backend policy).createChain specs)
  | .addDependency task prerequisite =>
    return .ofOutcome .edge (← (backend policy).addDependency task prerequisite)
  | .upsertType type => return .ofOutcome .type (← (backend policy).upsertType type)
  | .claim worker limit => return .ofOutcome .tasks (← (backend policy).claim worker limit)
  | .start id => return .ofOutcome .task (← (backend policy).start id)
  | .complete id => return .ofOutcome .task (← (backend policy).complete id)
  | .fail id message => return .ofOutcome .task (← (backend policy).fail id message)
  | .cancel id => return .ofOutcome .task (← (backend policy).cancel id)

/-- An operation replies and changes the rows as a call does when it is served, and writes the
entries of the call. -/
structure Serves (policy : Backoff.Policy) (w : World) (call : Call) (operation : Sim Reply) :
    Prop where
  reply : (operation.run w).1 = (w.memory.state.serve policy call).1
  rows : (operation.run w).2.memory.state = (w.memory.state.serve policy call).2
  log : (operation.run w).2.memory.log = w.memory.log.writeAll
    (Exchange.written ⟨call, (w.memory.state.serve policy call).1⟩) w.clock

/-! ### Each operation serves its call -/

variable {call : Call}

theorem log_appendLog (entry : NewLogEntry) (w : World) :
    ((appendLog writeLog entry : Sim Unit).run w).2.memory.log =
      (w.memory.log.write entry w.clock).2 := by
  rw [appendLog, run_bind]
  cases written : ((writeLog entry : Sim (Outcome Unit)).run w).1 <;> rfl

theorem log_recordTransition (transition : Transition) (t : Task) (w : World) :
    ((recordTransition writeLog transition t : Sim Unit).run w).2.memory.log =
      w.memory.log.writeAll (entryOf transition t).toList w.clock := by
  unfold recordTransition entryOf
  cases transition.logLine? t with
  | none => rfl
  | some line => exact log_appendLog _ w

theorem log_recordClaims (ts : List Task) (w : World) :
    ((forIn (m := Sim) ts PUnit.unit fun t _ => do
      recordTransition writeLog .claim t
      pure (.yield PUnit.unit)).run w).2.memory.log =
        w.memory.log.writeAll (ts.filterMap (entryOf .claim)) w.clock := by
  induction ts generalizing w with
  | nil => rfl
  | cons t ts ih =>
    have clock := (logged_recordTransition .claim t w).clock
    have log := log_recordTransition .claim t w
    rw [List.forIn_cons, bind_assoc, run_bind, filterMap_entryOf_cons, Log.writeAll_append, ← log,
      ← clock]
    exact ih _

theorem State.answer_eq {α : Type} (s : State) (reply : α → Reply) (update : Update α) :
    s.answer reply update = (.ofOutcome reply (update.on s).1, (update.on s).2) := by
  rw [answer]
  rcases update.on s with ⟨failure | result, next⟩
  · rfl
  · rfl

theorem serves_perform {α : Type} {reply : α → Reply} {update : Timestamp → Update α}
    (served : w.memory.state.serve policy call = w.memory.state.answer reply (update w.clock))
    (silent : call.transition? = none) :
    Serves policy w call (do return Reply.ofOutcome reply (← perform update)) := by
  have written : ∀ reply, Exchange.written ⟨call, reply⟩ = [] := by
    intro reply
    rw [Exchange.written, silent]
    rfl
  constructor <;> rw [run_bind, run_perform, served, State.answer_eq]
  · rfl
  · rfl
  · rw [written]
    rfl

theorem serves_performTransition {transition : Transition} {update : Timestamp → Update Task}
    (served : w.memory.state.serve policy call = w.memory.state.answer .task (update w.clock))
    (told : call.transition? = some transition) :
    Serves policy w call
      (do return Reply.ofOutcome .task (← performTransition transition update)) := by
  constructor <;> rw [run_bind, run_performTransition, served, State.answer_eq]
  · rcases (update w.clock).on w.memory.state with ⟨failure | t, s⟩
    · rfl
    · rfl
  · rcases (update w.clock).on w.memory.state with ⟨failure | t, s⟩
    · rfl
    · exact (logged_recordTransition _ _ _).rows
  · rw [Exchange.written, told]
    rcases (update w.clock).on w.memory.state with ⟨failure | t, s⟩
    · rfl
    · refine (log_recordTransition transition t _).trans ?_
      show _ = w.memory.log.writeAll ([t].filterMap (entryOf transition)) w.clock
      rw [filterMap_entryOf_cons, List.filterMap_nil, List.append_nil]
      rfl

theorem serves_claim (worker : String) (limit : Nat) :
    Serves policy w (.claim worker limit w.clock) ((Request.claim worker limit).run policy) where
  reply := rfl
  rows := (logged_recordClaims _ _).rows
  log := log_recordClaims _ _

theorem serves_enqueue (spec : NewTask) :
    Serves policy w ((Request.enqueue spec).call w) ((Request.enqueue spec).run policy) := by
  have run : ((Request.enqueue spec).run policy).run w =
      (.ofOutcome .task ((enqueue spec : Sim (Outcome Task)).run w).1,
        ((enqueue spec : Sim (Outcome Task)).run w).2) := rfl
  have served : w.memory.state.serve policy ((Request.enqueue spec).call w) =
      w.memory.state.answer .task
        (Update.enqueue spec ((Host.freshId : Sim Uuid).run w).1 w.clock) := rfl
  have untouched : ((Host.freshId : Sim Uuid).run w).2.memory = w.memory := rfl
  cases accepted : w.memory.state.prepare spec with
  | error failure =>
    constructor <;>
      rw [run, served, State.answer, Update.on_enqueue, run_enqueue, accepted] <;> rfl
  | ok checked =>
    -- the request is checked again with the identifier that was drawn for it
    constructor <;>
      rw [run, served, State.answer, Update.on_enqueue_of_accepted accepted, run_enqueue,
        accepted] <;>
      simp only [run_bind, run_perform, untouched, Update.on_enqueue_of_accepted accepted] <;> rfl

theorem serves_createChain (specs : List NewTask) :
    Serves policy w ((Request.createChain specs).call w)
      ((Request.createChain specs).run policy) := by
  have run : ((Request.createChain specs).run policy).run w =
      (.ofOutcome .tasks ((createChain specs : Sim (Outcome (List Task))).run w).1,
        ((createChain specs : Sim (Outcome (List Task))).run w).2) := rfl
  have served : w.memory.state.serve policy ((Request.createChain specs).call w) =
      w.memory.state.answer .tasks (Update.createChain specs (drawnIds specs w) w.clock) := rfl
  cases accepted : specs.mapM w.memory.state.prepare with
  | error failure =>
    constructor <;>
      rw [run, served, State.answer, Update.on_createChain, run_createChain, accepted] <;> rfl
  | ok checked =>
    constructor <;>
      rw [run, served, State.answer, Update.on_createChain_of_accepted accepted, run_createChain,
        accepted] <;> rfl

/-- Running a request serves its call. -/
theorem Request.serves (request : Request) (policy : Backoff.Policy) (w : World) :
    Serves policy w (request.call w) (request.run policy) := by
  cases request with
  | enqueue spec => exact serves_enqueue spec
  | createChain specs => exact serves_createChain specs
  | addDependency | upsertType => exact serves_perform rfl rfl
  | claim worker limit => exact serves_claim worker limit
  | start | complete | fail | cancel => exact serves_performTransition rfl rfl

end WorkQueue.Memory
