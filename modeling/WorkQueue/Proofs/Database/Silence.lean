import WorkQueue.Proofs.Database.Transcript
import WorkQueue.Proofs.Storage.Programs

/-!
# Operations that write no log entries

A session is silent if it writes no log entry, whatever the database answers. Silence is kept by
sequencing and by transactions. Most operations of the storage are silent, and so are the others up
to the statement that decides them.

## Main definitions

* `Database.Statement.isLog`, `Database.Session.Silent`: log entries, and sessions without them

## Main statements

* `Database.silent_bind`, `Database.silent_transaction`: parts one after the other, and transactions
* `Database.Session.Silent.path`: what a silent session sends
-/

namespace WorkQueue.Database

open Session

variable {α β : Type}

/-- The statement writes a log entry. -/
def Statement.isLog : Statement → Bool
  | .insertLog _ => true
  | _ => false

def Sent.isLog : Sent → Bool
  | .asked x => x.statement.isLog
  | .command .. | .ledger .. => false

/-! ### Sessions without log entries -/

namespace Session

/-- No log entry is written, whatever the answers are. -/
def Silent : Session α → Prop
  | done _ => True
  | run s next => s.isLog = false ∧ ∀ answer, (next answer).Silent
  | command _ next => ∀ answer, (next answer).Silent
  | ledger next => ∀ answer, (next answer).Silent
  | now next => ∀ t, (next t).Silent
  | freshId next => ∀ id, (next id).Silent
  | emit _ next => next.Silent

theorem Silent.andThen {x : Session α} {f : α → Session β} (hx : x.Silent)
    (hf : ∀ a, (f a).Silent) : (x.andThen f).Silent := by
  induction x with
  | done a => exact hf a
  | run s next ih =>
    obtain ⟨plain, rest⟩ := hx
    exact ⟨plain, fun answer => ih answer (rest answer)⟩
  | command c next ih | ledger next ih | now next ih | freshId next ih =>
    exact fun answer => ih answer (hx answer)
  | emit event next ih => exact ih hx

theorem Silent.path {x : Session α} {sent : List Sent} {a : α} (hx : x.Silent)
    (path : x.Path sent a) : ∀ y ∈ sent, y.isLog = false := by
  induction x generalizing sent with
  | done b =>
    obtain ⟨rfl, -⟩ := path
    exact fun y hy => absurd hy List.not_mem_nil
  | run s next ih =>
    obtain ⟨answer, rest, rfl, path⟩ := path
    intro y hy
    rcases List.mem_cons.1 hy with rfl | hy
    · exact hx.1
    · exact ih answer (hx.2 answer) path y hy
  | command c next ih | ledger next ih =>
    obtain ⟨answer, rest, rfl, path⟩ := path
    intro y hy
    rcases List.mem_cons.1 hy with rfl | hy
    · rfl
    · exact ih answer (hx answer) path y hy
  | now next ih | freshId next ih =>
    obtain ⟨value, path⟩ := path
    exact ih value (hx value) path
  | emit event next ih => exact ih hx path

end Session

theorem silent_bind {x : Fallible α} {f : α → Fallible β} (hx : x.run.Silent)
    (hf : ∀ a, (f a).run.Silent) : (x >>= f).run.Silent := by
  refine Silent.andThen (f := ExceptT.bindCont f) hx fun outcome => ?_
  cases outcome with
  | ok a => exact hf a
  | error failure => trivial

theorem silent_attempt {x : Session (Except Trouble α)} (hx : x.Silent) :
    (attempt x).run.Silent :=
  hx.andThen fun _ => trivial

theorem silent_optionalRow {s : Statement} (plain : s.isLog = false) : (optionalRow s).Silent :=
  ⟨plain, fun _ => trivial⟩

theorem silent_oneRow {s : Statement} (plain : s.isLog = false) : (oneRow s).Silent :=
  ⟨plain, fun _ => trivial⟩

theorem silent_execute {s : Statement} (plain : s.isLog = false) : (execute s).Silent :=
  ⟨plain, fun _ => trivial⟩

theorem silent_rows {s : Statement} (plain : s.isLog = false) : (Session.rows s).Silent :=
  ⟨plain, fun _ => trivial⟩

theorem silent_lift (result : Outcome α) : (lift result).run.Silent := trivial

theorem silent_session {x : Session α} (hx : x.Silent) :
    (ExceptT.lift x : Fallible α).run.Silent :=
  hx.andThen fun _ => trivial

theorem silent_transaction {body : Fallible α} (hx : body.run.Silent) :
    (transaction body).run.Silent := by
  refine silent_bind (silent_attempt fun _ => trivial) fun _ => ?_
  refine silent_bind (silent_session hx) fun outcome => ?_
  cases outcome with
  | ok value => exact silent_bind (silent_attempt fun _ => trivial) fun _ => trivial
  | error failure => exact fun _ => trivial

theorem silent_ite {c : Prop} [Decidable c] {x y : Fallible α} (hx : x.run.Silent)
    (hy : y.run.Silent) : (if c then x else y).run.Silent := by
  split
  · exact hx
  · exact hy

/-! ### Operations without log entries -/

theorem silent_find (id : Uuid) : (find id).run.Silent :=
  silent_bind (silent_attempt (silent_optionalRow rfl)) fun row => silent_lift (toTask? row)

theorem silent_rejected (id : Uuid) (action : Action) : (rejected id action : Fallible α).run.Silent :=
  silent_bind (silent_find id) fun _ => trivial

theorem silent_insertTask (spec : NewTask) : (insertTask spec).run.Silent := by
  refine silent_bind (silent_lift _) fun checked => ?_
  refine silent_bind (silent_attempt (silent_optionalRow rfl)) fun known => ?_
  cases known with
  | none => trivial
  | some name =>
    intro id now
    exact silent_bind (silent_attempt (silent_oneRow rfl)) fun row => silent_lift _

theorem silent_announce (taskType : String) : (announce taskType).run.Silent :=
  silent_attempt (silent_execute rfl)

theorem silent_enqueue (spec : NewTask) : (enqueue spec).run.Silent := by
  refine silent_bind (silent_transaction ?_) fun t => trivial
  exact silent_bind (silent_insertTask spec) fun t =>
    silent_bind (silent_announce _) fun _ => trivial

theorem silent_insertChain (previous : Option Task) (specs : List NewTask) :
    (insertChain previous specs).run.Silent := by
  induction specs generalizing previous with
  | nil => trivial
  | cons spec specs ih =>
    refine silent_bind (silent_insertTask spec) fun t => ?_
    have others : (do return t :: (← insertChain (some t) specs) : Fallible _).run.Silent :=
      silent_bind (ih (some t)) fun _ => trivial
    cases previous with
    | none => exact others
    | some before => exact silent_bind (silent_attempt (silent_execute rfl)) fun _ => others

theorem silent_createChain (specs : List NewTask) : (createChain specs).run.Silent := by
  unfold createChain
  split
  · trivial
  · refine silent_transaction (silent_bind (silent_insertChain none specs) fun ts => ?_)
    cases ts with
    | nil => trivial
    | cons head others => exact silent_bind (silent_announce _) fun _ => trivial

theorem silent_storeFailure (policy : Backoff.Policy) (id : Uuid) (message : String) :
    (storeFailure policy id message).run.Silent := by
  refine silent_bind (silent_attempt (silent_optionalRow rfl)) fun row => ?_
  refine silent_bind (silent_lift _) fun current => ?_
  cases current with
  | none => trivial
  | some current =>
    refine silent_bind (silent_lift _) fun _ => ?_
    refine silent_bind (silent_attempt (silent_optionalRow rfl)) fun type => ?_
    cases type with
    | none => trivial
    | some type => exact fun now => silent_attempt (silent_oneRow rfl)

theorem silent_insertCheckedEdge (task prerequisite : Uuid) :
    (insertCheckedEdge task prerequisite).run.Silent := by
  refine silent_bind (silent_attempt (silent_execute rfl)) fun _ => ?_
  refine silent_bind (silent_attempt (silent_optionalRow rfl)) fun row => ?_
  cases row with
  | none => trivial
  | some name =>
    refine silent_bind (silent_lift _) fun status => ?_
    refine silent_bind (silent_attempt (silent_oneRow rfl)) fun known => ?_
    cases known with
    | false => trivial
    | true =>
      show Silent (ExceptT.run (if status ≠ .pending then _ else if task = prerequisite then _ else _))
      refine silent_ite trivial (silent_ite trivial ?_)
      refine silent_bind (silent_attempt (silent_oneRow rfl)) fun closes => ?_
      cases closes with
      | true => trivial
      | false => exact silent_attempt (silent_oneRow rfl)

/-- A start is stored without a log entry, since the claim before it has one. -/
theorem silent_start (id : Uuid) : (start id).Silent := by
  refine ⟨rfl, fun answer => ?_⟩
  cases answer with
  | error trouble => trivial
  | ok rows =>
    cases rows with
    | nil => exact silent_rejected id .start
    | cons row rows => exact silent_bind (silent_lift _) fun t => trivial

theorem silent_list (filter : Filter) (request : PageRequest) : (list filter request).run.Silent := by
  refine silent_bind (silent_attempt (silent_oneRow rfl)) fun total => ?_
  refine silent_bind (silent_attempt (silent_rows rfl)) fun rows => ?_
  exact silent_bind (silent_lift _) fun ts => trivial

theorem silent_metrics : metrics.run.Silent := by
  refine silent_bind (silent_attempt (silent_rows rfl)) fun rows => ?_
  exact silent_bind (silent_lift _) fun counts => trivial

theorem silent_dependenciesOf (id : Uuid) : (dependenciesOf id).run.Silent := by
  refine silent_bind (silent_find id) fun t => ?_
  cases t with
  | none => trivial
  | some t => exact silent_attempt (silent_rows rfl)

theorem silent_isSatisfied (id : Uuid) : (isSatisfied id).run.Silent := by
  refine silent_bind (silent_attempt (silent_optionalRow rfl)) fun row => ?_
  cases row with
  | none => trivial
  | some satisfied => trivial

theorem silent_upsertType (type : NewTaskType) : (upsertType type).run.Silent :=
  silent_bind (silent_lift _) fun _ => silent_attempt (silent_oneRow rfl)

/-- Operations that store no transition worth an entry are silent. -/
theorem silent_operation (policy : Backoff.Policy) (op : Operation) (quiet : op.records = false) :
    (op.run (backend policy)).Silent := by
  cases op with
  | claim | complete | fail | cancel => cases quiet
  | start id => exact silent_start id
  | enqueue spec => exact silent_enqueue spec
  | find id => exact silent_find id
  | list filter request => exact silent_list filter request
  | metrics => exact silent_metrics
  | upsertType type => exact silent_upsertType type
  | findType name => exact silent_attempt (silent_optionalRow rfl)
  | listTypes => exact silent_attempt (silent_rows rfl)
  | createChain specs => exact silent_createChain specs
  | addDependency task prerequisite =>
    exact silent_transaction (silent_insertCheckedEdge task prerequisite)
  | dependenciesOf id => exact silent_dependenciesOf id
  | isSatisfied id => exact silent_isSatisfied id

end WorkQueue.Database
