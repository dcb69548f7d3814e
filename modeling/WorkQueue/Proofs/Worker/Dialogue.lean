import WorkQueue.Proofs.Storage.Programs
import WorkQueue.Worker.Batch

/-!
# Dialogues of a worker

What a worker asks of its storage, its processors and its host, and how it goes on with the answers,
as data. The answers are left open: whatever a storage and the handlers may do is one way through a
dialogue. Reports are made along the way and decide nothing.

## Main definitions

* `Worker.Request`, `Worker.Asked`: what is asked, and with which answer
* `Worker.Dialogue`: the dialogues; `Worker.Dialogue.execute` and `Worker.Dialogue.runOnce` are those
  of an execution and of a batch
* `Worker.Dialogue.Path`: the ways through a dialogue
* `Worker.Dialogue.interpret`: a dialogue held with a storage and processors

## Main statements

* `Worker.Dialogue.path_bind`: a way through two dialogues one after the other
* `Worker.Dialogue.Path.partAtAnswer`: two ways through a dialogue part with an answer
* `Worker.Dialogue.interpret_runOnce`: with every storage, a batch is the dialogue held with it
-/

namespace WorkQueue.Worker

/-- What a worker can ask. -/
inductive Request (P : Type) where
  /-- An operation of the storage, its log aside. -/
  | operation (op : Operation)
  | writeLog (entry : NewLogEntry)
  | readLog (id : Uuid)
  /-- The processors that are registered now. -/
  | processors
  /-- The handler of a processor is to be run on a task. -/
  | process (p : P) (t : Task)
  | now
  | freshId

/-- What the answer to a request is. -/
def Request.Answer {P : Type} : Request P → Type
  | operation op => Outcome op.Result
  | writeLog _ => Outcome Unit
  | readLog _ => Outcome (List LogEntry)
  | processors => Processors P
  | process _ _ => HandlerResult
  | now => Timestamp
  | freshId => Uuid

/-- Answers a request, by a storage, the processors that are registered, and their handlers. -/
def Request.answeredBy {P : Type} {m : Type → Type} [Host m] (b : Backend m)
    (table : m (Processors P)) (handler : P → Task → m HandlerResult) :
    (r : Request P) → m r.Answer
  | operation op => op.run b
  | writeLog entry => b.writeLog entry
  | readLog id => b.readLog id
  | processors => table
  | process p t => handler p t
  | now => Host.now
  | freshId => Host.freshId

/-- A request with its answer. -/
structure Asked (P : Type) where
  request : Request P
  answer : request.Answer

namespace Asked

variable {P : Type}

def claim (worker : String) (limit : Nat) (answer : Outcome (List Task)) : Asked P :=
  ⟨.operation (.claim worker limit), answer⟩

def start (id : Uuid) (answer : Outcome Task) : Asked P := ⟨.operation (.start id), answer⟩

def complete (id : Uuid) (answer : Outcome Task) : Asked P := ⟨.operation (.complete id), answer⟩

def fail (id : Uuid) (message : String) (answer : Outcome Task) : Asked P :=
  ⟨.operation (.fail id message), answer⟩

def processors (table : Processors P) : Asked P := ⟨.processors, table⟩

def process (p : P) (t : Task) (answer : HandlerResult) : Asked P := ⟨.process p t, answer⟩

end Asked

/-- Requests one after the other, each of which may depend on the answers before it. -/
inductive Dialogue (P α : Type) where
  | done (result : α)
  | ask (request : Request P) (next : request.Answer → Dialogue P α)
  | report (event : Telemetry.Event) (next : Dialogue P α)

namespace Dialogue

variable {P α β : Type}

/-- Goes on with the result of a dialogue. -/
def andThen : Dialogue P α → (α → Dialogue P β) → Dialogue P β
  | done a, f => f a
  | ask r next, f => ask r fun answer => (next answer).andThen f
  | report event next, f => report event (next.andThen f)

instance : Monad (Dialogue P) where
  pure := done
  bind := andThen

instance : Host (Dialogue P) where
  now := ask .now done
  freshId := ask .freshId done
  emit event := report event (done ())

/-! ### The dialogues of a worker -/

/-- A storage of which every operation is asked for. -/
def storage : Backend (Dialogue P) where
  enqueue spec := ask (.operation (.enqueue spec)) done
  claim worker limit := ask (.operation (.claim worker limit)) done
  start id := ask (.operation (.start id)) done
  complete id := ask (.operation (.complete id)) done
  fail id message := ask (.operation (.fail id message)) done
  cancel id := ask (.operation (.cancel id)) done
  find id := ask (.operation (.find id)) done
  list filter request := ask (.operation (.list filter request)) done
  metrics := ask (.operation .metrics) done
  upsertType type := ask (.operation (.upsertType type)) done
  findType name := ask (.operation (.findType name)) done
  listTypes := ask (.operation .listTypes) done
  createChain specs := ask (.operation (.createChain specs)) done
  addDependency task prerequisite := ask (.operation (.addDependency task prerequisite)) done
  dependenciesOf id := ask (.operation (.dependenciesOf id)) done
  isSatisfied id := ask (.operation (.isSatisfied id)) done
  writeLog entry := ask (.writeLog entry) done
  readLog id := ask (.readLog id) done

/-- The processor of a type, among those that are registered now. -/
def resolve (taskType : String) : Dialogue P (Outcome P) :=
  ask .processors fun table => done (table.resolve taskType)

def process (p : P) (t : Task) : Dialogue P HandlerResult := ask (.process p t) done

/-- The execution of a claimed task. -/
def execute (id : Uuid) : Dialogue P Verdict := Worker.execute storage resolve process id

/-- A batch whose executions follow one after the other. -/
def runOnce (worker : String) (config : Settings.Worker) : Dialogue P (Outcome Tally) :=
  Worker.runOnce storage execute worker config

/-! ### Ways through a dialogue -/

/-- This can be asked, with these answers, and yield this result. The answers are any. -/
def Path : Dialogue P α → List (Asked P) → α → Prop
  | done a, asked, result => asked = [] ∧ result = a
  | ask r next, asked, result =>
    ∃ answer rest, asked = ⟨r, answer⟩ :: rest ∧ (next answer).Path rest result
  | report _ next, asked, result => next.Path asked result

variable {x : Dialogue P α} {f : α → Dialogue P β} {asked asked' : List (Asked P)} {a a' : α} {b : β}

theorem path_bind : (x >>= f).Path asked b ↔
    ∃ first a rest, asked = first ++ rest ∧ x.Path first a ∧ (f a).Path rest b := by
  show (x.andThen f).Path asked b ↔ _
  induction x generalizing asked with
  | done a =>
    constructor
    · intro path
      exact ⟨[], a, asked, rfl, ⟨rfl, rfl⟩, path⟩
    · rintro ⟨_, _, rest, rfl, ⟨rfl, rfl⟩, path⟩
      exact path
  | ask r next ih =>
    constructor
    · rintro ⟨answer, rest, rfl, path⟩
      obtain ⟨first, a, rest, rfl, begun, continued⟩ := (ih answer).1 path
      exact ⟨⟨r, answer⟩ :: first, a, rest, rfl, ⟨answer, first, rfl, begun⟩, continued⟩
    · rintro ⟨_, a, rest, rfl, ⟨answer, first, rfl, begun⟩, continued⟩
      exact ⟨answer, first ++ rest, rfl, (ih answer).2 ⟨first, a, rest, rfl, begun, continued⟩⟩
  | report event next ih => exact ih

/-- At each point that is reached with the same exchanges, both lists end or both go on with the same
request. -/
def PartAtAnswer : List (Asked P) → List (Asked P) → Prop
  | [], [] => True
  | y :: rest, y' :: rest' => y.request = y'.request ∧ (y = y' → PartAtAnswer rest rest')
  | _, _ => False

/-- Two ways through a dialogue part with an answer: what is asked next depends on the answers so far,
and on nothing else. -/
theorem Path.partAtAnswer (path : x.Path asked a) (path' : x.Path asked' a') :
    PartAtAnswer asked asked' := by
  induction x generalizing asked asked' with
  | done a =>
    obtain ⟨rfl, rfl⟩ := path
    obtain ⟨rfl, rfl⟩ := path'
    trivial
  | ask r next ih =>
    obtain ⟨answer, rest, rfl, path⟩ := path
    obtain ⟨answer', rest', rfl, path'⟩ := path'
    refine ⟨rfl, fun same => ?_⟩
    cases same
    exact ih answer path path'
  | report event next ih => exact ih path path'

/-! ### Dialogues held -/

variable {m : Type → Type} [Monad m] [Host m] (b : Backend m) (table : m (Processors P))
  (handler : P → Task → m HandlerResult)

/-- Holds a dialogue with a storage and processors. -/
def interpret : Dialogue P α → m α
  | done a => pure a
  | ask r next => do
    let answer ← r.answeredBy b table handler
    (next answer).interpret
  | report event next => do
    Host.emit event
    next.interpret

theorem interpret_reportDropped_bind (id : Uuid) (operation : String) (failure : Failure)
    (f : Unit → Dialogue P β) :
    (reportDropped id operation failure >>= f).interpret b table handler =
      reportDropped id operation failure >>= fun u => (f u).interpret b table handler := by
  unfold reportDropped
  by_cases dropped : failure.isInvalidTransition
  · simp only [dropped, if_true]
    rfl
  · simp only [dropped]
    rfl

theorem interpret_start (id : Uuid) :
    (Execution.start (storage (P := P)) id).interpret b table handler = Execution.start b id := by
  refine bind_congr fun answer => ?_
  cases answer with
  | ok t => rfl
  | error failure => rfl

theorem interpret_conclude (id : Uuid) (result : Outcome Unit) :
    (Execution.conclude (storage (P := P)) id result).interpret b table handler =
      Execution.conclude b id result := by
  cases result with
  | ok _ =>
    refine bind_congr fun answer => ?_
    cases answer with
    | ok t => rfl
    | error failure => exact interpret_reportDropped_bind b table handler id _ failure _
  | error failure =>
    refine bind_congr fun answer => ?_
    cases answer with
    | error failure => exact interpret_reportDropped_bind b table handler id _ failure _
    | ok t =>
      show interpret b table handler (ite (t.retriesExhausted = true) _ _) = ite _ _ _
      by_cases exhausted : t.retriesExhausted
      · simp only [exhausted, if_true]
        rfl
      · simp only [exhausted]
        rfl

section

variable [LawfulMonad m]

theorem interpret_bind (x : Dialogue P α) (f : α → Dialogue P β) :
    (x >>= f).interpret b table handler =
      x.interpret b table handler >>= fun a => (f a).interpret b table handler := by
  show (x.andThen f).interpret b table handler = _
  induction x with
  | done a =>
    rw [interpret, pure_bind]
    rfl
  | ask r next ih => simp only [andThen, interpret, bind_assoc, ih]
  | report event next ih => simp only [andThen, interpret, bind_assoc, ih]

theorem interpret_handle (t : Task) :
    (Execution.handle resolve process t).interpret b table handler =
      Execution.handle (fun taskType => do return (← table).resolve taskType) handler t := by
  rw [Execution.handle, Execution.handle, interpret_bind]
  refine bind_congr fun outcome => ?_
  cases outcome with
  | ok p => rfl
  | error failure => rfl

/-- An execution, with every storage and all processors. -/
theorem interpret_execute (id : Uuid) : (execute id).interpret b table handler =
    Worker.execute b (fun taskType => do return (← table).resolve taskType) handler id := by
  rw [execute, Worker.execute, Worker.execute, interpret_bind, interpret_start]
  refine bind_congr fun e => ?_
  cases e with
  | started id t =>
    show (Execution.handle resolve process t >>= fun result => _).interpret b table handler = _
    rw [interpret_bind, interpret_handle]
    exact bind_congr fun result => interpret_conclude b table handler id result
  | finished verdict => rfl
  | claimed | handled => rfl

theorem interpret_executeAll (ts : List Task) (tally : Tally) :
    (executeAll execute ts tally).interpret b table handler =
      executeAll (Worker.execute b (fun taskType => do return (← table).resolve taskType) handler)
        ts tally := by
  induction ts generalizing tally with
  | nil => rfl
  | cons t ts ih =>
    rw [executeAll, executeAll, interpret_bind, interpret_execute]
    exact bind_congr fun verdict => ih _

/-- A batch, with every storage and all processors. -/
theorem interpret_runOnce (worker : String) (config : Settings.Worker) :
    (runOnce worker config).interpret b table handler =
      Worker.runOnce b
        (Worker.execute b (fun taskType => do return (← table).resolve taskType) handler)
        worker config := by
  refine bind_congr fun answer => ?_
  match answer with
  | .error failure => rfl
  | .ok [] => rfl
  | .ok (t :: ts) =>
    show (executeAll execute (t :: ts) _ >>= fun tally => _).interpret b table handler = _
    rw [interpret_bind, interpret_executeAll]
    rfl

end

/-- Every run of a dialogue on a state is one of its ways. -/
theorem exists_path_run {σ : Type} [Host (StateM σ)] (b : Backend (StateM σ))
    (table : StateM σ (Processors P)) (handler : P → Task → StateM σ HandlerResult)
    (x : Dialogue P α) (w : σ) :
    ∃ asked, x.Path asked ((x.interpret b table handler).run w).1 := by
  induction x generalizing w with
  | done a => exact ⟨[], rfl, rfl⟩
  | ask r next ih =>
    obtain ⟨rest, path⟩ := ih ((r.answeredBy b table handler).run w).1
      ((r.answeredBy b table handler).run w).2
    exact ⟨_, _, rest, rfl, path⟩
  | report event next ih => exact ih _

end Dialogue

end WorkQueue.Worker
