import WorkQueue.Proofs.Database.Transcript
import Mathlib.Data.List.Forall2

/-!
# Transactions of the storage in a database

Each operation of several statements runs inside one transaction. Whatever the database answers, no
statement is sent after a check that does not pass, and the transaction is committed exactly when
all checks have passed. What is sent until then is fixed by the arguments and the answers.

## Main definitions

* `Database.CommitsWhenPassed`: an operation that is committed exactly when all checks pass
* `Database.chainStatements`: the statements that store a chain
* `Database.CommitsExactly`: the four operations

## Main statements

* `Database.commits_exactly`: the operations are committed exactly when they succeed
-/

namespace WorkQueue.Database

open Session

variable {α β : Type} {refuses : List Asked → Prop}

/-! ### Creating tasks -/

/-- A request is within its bounds. -/
def Valid (spec : NewTask) : Prop := ∃ checked, spec.validate = .ok checked

/-- The row to insert for a request. -/
def Describes (spec : NewTask) (new : Task) : Prop :=
  ∃ checked id now, spec.validate = .ok checked ∧ new = Task.ofNew checked id now

/-- The statements that store the row of a task: its type is looked up first. -/
def insertion (new : Task) : List Statement := [.typeName new.taskType, .insertTask new]

theorem toTask_of_status {row : TaskRow} {status : Status} (named : row.status = status.name) :
    ∃ t, row.toTask = .ok t ∧ t.status = status := by
  simp [TaskRow.toTask, named]

/-- The only check of its own is the one on the request, before anything is sent. -/
theorem careful_insertTask {spec : NewTask} (own : refuses [] ↔ ¬ Valid spec)
    (clear : ∀ x, ¬ refuses [x]) : Careful (insertTask spec) refuses fun body _ =>
      ∃ new, Describes spec new ∧ body.map (·.statement) = insertion new := by
  refine Careful.bind (R := fun body checked => body = [] ∧ spec.validate = .ok checked)
    (careful_lift (fun failure refused => own.2 ?_) fun checked valid => ⟨rfl, valid⟩) ?_
  · rintro ⟨checked, valid⟩
    rw [refused] at valid
    cases valid
  · rintro _ checked ⟨rfl, valid⟩
    refine careful_someRow (fun refused => own.1 refused ⟨checked, valid⟩) (fun _ => .rfl)
      fails_throw fun name names _ => careful_freshId fun id => careful_now fun now => ?_
    refine careful_oneRow (clear _) (fun accepted => accepted rfl)
      (fun row rows refused => absurd (List.cons_ne_nil _ _) refused) fun row rows _ known => ?_
    obtain ⟨status, named⟩ := known
    obtain ⟨t, read, -⟩ := toTask_of_status named
    refine careful_lift (fun failure unread => ?_) fun t _ => ?_
    · exact absurd (read.symm.trans unread) (by simp)
    · exact ⟨_, ⟨checked, id, now, valid, rfl⟩, rfl⟩

/-- The statements of an enqueue: those that store the row, and the announcement of its type. -/
def Enqueued (spec : NewTask) (body : List Asked) (t : Task) : Prop :=
  ∃ new, Describes spec new ∧
    body.map (·.statement) = insertion new ++ [.notifyEnqueued t.taskType]

/-- A request that is out of bounds is refused before anything is sent. -/
def refusesRequest (spec : NewTask) (body : List Asked) : Prop := body = [] ∧ ¬ Valid spec

theorem careful_announce {b : β} {taskType : String} {post : List Asked → β → Prop}
    (clear : ¬ refuses []) (holds : ∀ answer, post [⟨.notifyEnqueued taskType, answer⟩] b) :
    Careful (do announce taskType; return b) refuses post :=
  careful_execute clear (fun _ => trivial) fun answer => careful_pure (holds answer)

/-! ### Chains -/

/-- The statements that store a chain, given the rows to insert and the tasks that come back: the
row of each request and its edge to the task before. -/
def chainStatements : Option Task → List (Task × Task) → List Statement
  | _, [] => []
  | previous, (new, t) :: rest =>
    insertion new ++
      (previous.map fun before => Statement.insertEdge ⟨t.id, before.id, t.createdAt⟩).toList ++
      chainStatements (some t) rest

/-- The statements of a chain that begins after a task, if there is one. -/
def Chained (previous : Option Task) (specs : List NewTask) (body : List Asked) (ts : List Task) :
    Prop :=
  ∃ news, List.Forall₂ Describes specs news ∧ ts.length = specs.length ∧
    body.map (·.statement) = chainStatements previous (news.zip ts)

/-- How many statements fewer than three the first request of a chain takes: it has no edge unless
the chain begins after a task. -/
def missing (previous : Option Task) : Nat := if previous.isSome then 0 else 1

/-- A request that is out of bounds is refused when its turn comes; each one before it has taken
three statements, the first one perhaps fewer. -/
def refusesNext (previous : Option Task) (specs : List NewTask) (body : List Asked) : Prop :=
  ∃ k spec, specs[k]? = some spec ∧ ¬ Valid spec ∧ body.length = 3 * k - missing previous

theorem missing_le (previous : Option Task) : missing previous ≤ 1 := by
  unfold missing
  split <;> omega

theorem refusesNext_nil {previous : Option Task} {spec : NewTask} {rest : List NewTask} :
    refusesNext previous (spec :: rest) [] ↔ ¬ Valid spec := by
  have bound := missing_le previous
  constructor
  · rintro ⟨k, spec', found, invalid, length_eq⟩
    rw [List.length_nil] at length_eq
    obtain rfl : k = 0 := by omega
    obtain rfl : spec = spec' := by simpa using found
    exact invalid
  · intro invalid
    exact ⟨0, spec, rfl, invalid, by simp⟩

/-- After the statements of an accepted request, the next one has its turn. -/
theorem refusesNext_append {previous : Option Task} {spec : NewTask} {rest : List NewTask}
    {first : List Asked} (valid : Valid spec) (t : Task)
    (length_eq : first.length + missing previous = 3) (more : List Asked) :
    refusesNext (some t) rest more ↔ refusesNext previous (spec :: rest) (first ++ more) := by
  have none_missing : missing (some t) = 0 := rfl
  constructor
  · rintro ⟨k, spec', found, invalid, count⟩
    refine ⟨k + 1, spec', found, invalid, ?_⟩
    rw [List.length_append]
    omega
  · rintro ⟨k, spec', found, invalid, count⟩
    cases k with
    | zero =>
      obtain rfl : spec = spec' := by simpa using found
      exact absurd valid invalid
    | succ k =>
      refine ⟨k, spec', found, invalid, ?_⟩
      rw [List.length_append] at count
      omega

theorem careful_insertChain (specs : List NewTask) (previous : Option Task) :
    Careful (insertChain previous specs) (refusesNext previous specs) (Chained previous specs) := by
  induction specs generalizing previous with
  | nil =>
    have empty : insertChain previous [] = pure [] := by cases previous <;> rfl
    rw [empty]
    exact careful_pure ⟨[], .nil, rfl, rfl⟩
  | cons spec rest ih =>
    have bound := missing_le previous
    refine Careful.bind (careful_insertTask refusesNext_nil ?_) ?_
    · rintro x ⟨k, spec', found, invalid, length_eq⟩
      rw [List.length_singleton] at length_eq
      omega
    · rintro body t ⟨new, described, sent⟩
      have two : body.length = 2 := by simpa [insertion] using congrArg List.length sent
      have valid : Valid spec := by
        obtain ⟨checked, -, -, valid, -⟩ := described
        exact ⟨checked, valid⟩
      -- once the edge to the task before is stored, if there is one, the other requests follow
      have others : ∀ first : List Asked, first.length + missing previous = 3 →
          first.map (·.statement) = insertion new ++ (previous.map fun before =>
            Statement.insertEdge ⟨t.id, before.id, t.createdAt⟩).toList →
          Careful (do let others ← insertChain (some t) rest; return t :: others)
            (fun more => refusesNext previous (spec :: rest) (first ++ more))
            fun more => Chained previous (spec :: rest) (first ++ more) := by
        intro first length_eq first_sent
        refine Careful.bind ((ih (some t)).mono (refusesNext_append valid t length_eq)
          fun _ _ h => h) ?_
        rintro more ts ⟨news, all_described, count, more_sent⟩
        refine careful_pure ⟨new :: news, .cons described all_described, by simp [count], ?_⟩
        rw [List.append_nil, List.map_append, first_sent, more_sent]
        rfl
      cases previous with
      | none => exact others body (by simp [two, missing]) (by simp [sent])
      | some before =>
        refine careful_execute ?_ (fun _ => trivial) fun answer => ?_
        · rintro ⟨k, spec', found, invalid, length_eq⟩
          rw [List.append_nil, two] at length_eq
          simp only [missing, Option.isSome_some, if_true] at length_eq
          omega
        · have edge := others (body ++ [⟨.insertEdge ⟨t.id, before.id, t.createdAt⟩, answer⟩])
            (by simp [two, missing]) (by simp [sent])
          simp only [List.append_assoc, List.singleton_append] at edge
          exact edge

theorem length_chainStatements (previous : Option Task) (pairs : List (Task × Task)) :
    (chainStatements previous pairs).length = 3 * pairs.length - missing previous := by
  induction pairs generalizing previous with
  | nil => simp [chainStatements]
  | cons pair rest ih =>
    have next : missing (some pair.2) = 0 := rfl
    rw [chainStatements, List.length_append, List.length_append, ih, next]
    cases previous <;> simp [insertion, missing] <;> omega

/-- The statements of a chain: those that store its rows and edges, and one announcement of the
first task's type. -/
def ChainStored (specs : List NewTask) (body : List Asked) (ts : List Task) : Prop :=
  ∃ news head, List.Forall₂ Describes specs news ∧ ts.length = specs.length ∧ ts.head? = some head ∧
    body.map (·.statement) = chainStatements none (news.zip ts) ++ [.notifyEnqueued head.taskType]

theorem Chained.length_eq {specs : List NewTask} {body : List Asked} {ts : List Task}
    (chained : Chained none specs body ts) : body.length = 3 * specs.length - 1 := by
  obtain ⟨news, described, count, sent⟩ := chained
  have length_eq := congrArg List.length sent
  rw [List.length_map, length_chainStatements, List.length_zip, ← described.length_eq, count,
    Nat.min_self] at length_eq
  exact length_eq

/-- Only a request of the chain can be refused when its turn comes. -/
theorem not_refusesNext {specs : List NewTask} {body : List Asked}
    (length_le : 3 * specs.length - 1 ≤ body.length) : ¬ refusesNext none specs body := by
  rintro ⟨k, spec, found, -, length_eq⟩
  obtain ⟨inside, -⟩ := List.getElem?_eq_some_iff.1 found
  simp only [missing, Option.isSome_none, Bool.false_eq_true, if_false] at length_eq
  omega

/-! ### Failures -/

/-- A row that is read as a task holds the name of its status. -/
theorem status_of_toTask {row : TaskRow} {t : Task} (read : row.toTask = .ok t) :
    row.status = t.status.name := by
  unfold TaskRow.toTask at read
  cases known : Status.ofText? row.status with
  | none =>
    rw [known] at read
    cases read
  | some status =>
    rw [known] at read
    cases read
    simpa [eq_comm] using List.find?_some known

/-- A failure is stored for the locked row of a task in processing, by the policy of its type. -/
def FailureStored (policy : Backoff.Policy) (id : Uuid) (message : String) (body : List Asked) :
    Prop :=
  ∃ (row : TaskRow) (rows : List TaskRow) (t : Task) (type : TaskType) (types : List TaskType)
    (now : Timestamp) (answer : Except Trouble (List TaskRow)), row.toTask = .ok t ∧ body =
      [⟨.lockTask id, .ok (row :: rows)⟩, ⟨.typeByName t.taskType, .ok (type :: types)⟩,
        ⟨.failTask id message (policy.failureSchedule type t.attempts now).1
          (policy.failureSchedule type t.attempts now).2 now, answer⟩]

/-- A task that is not in processing admits no failure. -/
theorem target?_fail {t : Task} (other : t.status ≠ .processing) :
    t.target? .fail = .error (t.refusal .fail) := by
  cases status : t.status <;> simp_all [Task.target?]

theorem careful_storeFailure (policy : Backoff.Policy) (id : Uuid) (message : String) :
    Careful (storeFailure policy id message) (fun _ => False) fun body row =>
      FailureStored policy id message body ∧ ∃ status : Status, row.status = status.name := by
  refine careful_optionalRow not_false (fun rows refused => ?_) fun rows accepted _ => ?_
  · cases rows with
    | nil => exact fails_throw
    | cons row rows =>
      show Fails (lift (row.toTask.map some) >>= _ : Fallible TaskRow)
      cases read : row.toTask with
      | error failure => exact fails_throw
      | ok t =>
        have other : t.status ≠ .processing := fun processing =>
          refused ⟨row, rfl, by rw [status_of_toTask read, processing]⟩
        show Fails (lift (t.target? .fail) >>= _ : Fallible TaskRow)
        rw [target?_fail other]
        exact fails_throw
  · obtain ⟨row, found, processing⟩ := accepted
    cases rows with
    | nil => cases found
    | cons head rows =>
      obtain rfl : head = row := by simpa using found
      obtain ⟨t, read, status⟩ := toTask_of_status processing
      -- the row is read and in processing, so neither check fails
      refine Careful.bind (R := fun body current => body = [] ∧ current = some t)
        (careful_lift (fun failure refused => ?_) fun current h => ⟨rfl, ?_⟩) ?_
      · exact absurd ((congrArg (·.map some) read).symm.trans refused) (by simp [Except.map])
      · exact (Except.ok.inj ((congrArg (·.map some) read).symm.trans h)).symm
      · rintro _ _ ⟨rfl, rfl⟩
        refine Careful.bind (R := fun body _ => body = [])
          (careful_lift (fun failure refused => ?_) fun _ _ => rfl) ?_
        · simp [Task.target?, status] at refused
        · rintro _ _ rfl
          refine careful_someRow not_false (fun _ => .rfl) fails_throw fun type types _ =>
            careful_now fun now => ?_
          refine careful_lastRow not_false (fun _ => .rfl) fun written others known => ?_
          exact ⟨⟨head, rows, t, type, types, now, _, read, rfl⟩, known⟩

/-! ### Prerequisites -/

/-- A task that is not pending, or an edge from a task to itself, is refused once both tasks are
known to exist. -/
def refusesEdge (task prerequisite : Uuid) (body : List Asked) : Prop :=
  ∃ locked name names found, body =
    [⟨.lockEdges, locked⟩, ⟨.lockStatus task, .ok (name :: names)⟩,
      ⟨.taskExists prerequisite, found⟩] ∧ (name ≠ Status.pending.name ∨ task = prerequisite)

theorem careful_insertCheckedEdge (task prerequisite : Uuid) :
    Careful (insertCheckedEdge task prerequisite) (refusesEdge task prerequisite) fun body _ =>
      body.map (·.statement) = [.lockEdges, .lockStatus task, .taskExists prerequisite,
        .reaches prerequisite task, .upsertEdge task prerequisite] := by
  refine careful_execute (by simp [refusesEdge]) (fun _ => trivial) fun locked => ?_
  refine careful_someRow (by simp [refusesEdge]) (fun _ => .rfl) fails_throw
    fun name names known => ?_
  obtain ⟨status, rfl⟩ := known
  refine Careful.bind (R := fun body current => body = [] ∧ current = status)
    (careful_lift (by simp [toStatus]) (by simp [toStatus])) ?_
  rintro _ status ⟨rfl, rfl⟩
  refine careful_oneRow (by simp [refusesEdge]) (by simp [Statement.Accepts]) ?_ ?_
  · rintro row rows refused
    cases row with
    | true => exact absurd rfl refused
    | false => exact fails_throw
  · rintro row rows accepted -
    obtain rfl : row = true := Option.some.inj accepted
    show Careful (if status ≠ .pending then _ else if task = prerequisite then _ else _) _ _
    by_cases pending : status = .pending
    · rw [if_neg (not_not.2 pending)]
      by_cases same : task = prerequisite
      · rw [if_pos same]
        exact careful_throw ⟨locked, _, names, _, rfl, .inr same⟩
      · rw [if_neg same]
        refine careful_oneRow ?_ (by simp [Statement.Accepts]) ?_ ?_
        · rintro ⟨_, _, _, _, sent, refused⟩
          simp only [List.nil_append, List.cons.injEq, Asked.mk.injEq, heq_eq_eq, Except.ok.injEq,
            true_and] at sent
          obtain ⟨-, ⟨rfl, -⟩, -⟩ := sent
          exact refused.elim (fun other => other (congrArg Status.name pending)) same
        · rintro reached rows refused
          cases reached with
          | true => exact fails_throw
          | false => exact absurd rfl refused
        · rintro reached rows accepted -
          obtain rfl : reached = false := Option.some.inj accepted
          exact careful_lastRow (by simp [refusesEdge]) (fun _ => .rfl) fun _ _ _ => rfl
    · rw [if_pos pending]
      refine careful_throw ⟨locked, _, names, _, rfl, .inl fun named => pending ?_⟩
      simpa using congrArg Status.ofText? named

/-! ### The operations -/

/-- An operation sends its statements in one transaction, and succeeds if and only if the
transaction is committed. -/
structure CommitsWhenPassed (operation : Session (Outcome α)) (refuses : List Asked → Prop)
    (post : List Asked → α → Prop) (log : List Sent → Prop) : Prop where
  transacted : ∀ sent result, operation.Path sent result → (∀ x, .asked x ∈ sent → x.Known) →
    Transacted refuses post log sent result
  ok_iff : ∀ sent result, operation.Path sent result → (∀ x, .asked x ∈ sent → x.Known) →
    ((∃ a, result = .ok a) ↔ .command .commit (.ok ()) ∈ sent)

theorem CommitsWhenPassed.of_transacted {operation : Session (Outcome α)}
    {post : List Asked → α → Prop} {log : List Sent → Prop}
    (h : ∀ sent result, operation.Path sent result → (∀ x, .asked x ∈ sent → x.Known) →
      Transacted refuses post log sent result) : CommitsWhenPassed operation refuses post log where
  transacted := h
  ok_iff sent result path known := (h sent result path known).ok_iff

theorem enqueue_commits (spec : NewTask) : CommitsWhenPassed (enqueue spec).run
    (refusesRequest spec) (Enqueued spec) (· = []) := by
  have careful : Careful (do let t ← insertTask spec; announce t.taskType; return t)
      (refusesRequest spec) (Enqueued spec) := by
    refine Careful.bind
      (careful_insertTask (by simp [refusesRequest]) (by simp [refusesRequest])) ?_
    rintro body t ⟨new, described, sent⟩
    refine careful_announce ?_ fun answer => ⟨new, described, by simp [sent]⟩
    rintro ⟨empty, -⟩
    simp_all [insertion]
  refine .of_transacted fun sent result path known => ?_
  obtain ⟨first, outcome, rest, rfl, inside, closing⟩ :=
    Path.split (x := ExceptT.run (transaction _)) path
  have transacted := careful.transacted
    (by rintro _ t ⟨new, -, sent⟩ ⟨rfl, -⟩; simp [insertion] at sent) inside
    fun x hx => known x (List.mem_append_left _ hx)
  -- the report that follows sends nothing
  cases outcome with
  | error failure =>
    obtain ⟨rfl, rfl⟩ := closing
    rwa [List.append_nil]
  | ok t =>
    obtain ⟨rfl, rfl⟩ := closing
    rwa [List.append_nil]

theorem careful_announceChain {specs : List NewTask} (nonempty : specs ≠ []) : Careful
    (do
      let ts ← insertChain none specs
      match ts with
      | [] => pure ()
      | head :: _ => announce head.taskType
      return ts) (refusesNext none specs) (ChainStored specs) := by
  have positive := List.length_pos_iff.2 nonempty
  refine Careful.bind (careful_insertChain specs none) ?_
  rintro body ts chained
  cases ts with
  | nil =>
    obtain ⟨_, _, count, _⟩ := chained
    rw [List.length_nil] at count
    omega
  | cons head others =>
    have length_eq := chained.length_eq
    obtain ⟨news, described, count, sent⟩ := chained
    refine careful_announce (not_refusesNext (by simp [length_eq])) fun answer => ?_
    exact ⟨news, head, described, count, rfl, by simp [sent]⟩

theorem createChain_commits {specs : List NewTask} (nonempty : specs ≠ []) :
    CommitsWhenPassed (createChain specs).run (refusesNext none specs) (ChainStored specs)
      (· = []) := by
  have careful := careful_announceChain nonempty
  have chain : createChain specs = transaction _ := if_neg (by simpa using nonempty)
  refine .of_transacted fun sent result path known => ?_
  rw [chain] at path
  refine careful.transacted ?_ path known
  rintro body ts ⟨news, head, described, count, -, sent⟩
  have length_eq := congrArg List.length sent
  rw [List.length_map, List.length_append, length_chainStatements, List.length_zip,
    ← described.length_eq, count, Nat.min_self] at length_eq
  exact not_refusesNext (by simp only [missing] at length_eq; simp at length_eq; omega)

theorem fail_commits (policy : Backoff.Policy) (id : Uuid) (message : String) :
    CommitsWhenPassed (fail policy id message).run (fun _ => False)
      (fun body _ => FailureStored policy id message body)
      fun log => ∃ entry answer, log = [.asked ⟨.insertLog entry, answer⟩] := by
  refine .of_transacted fun sent result path known => ?_
  obtain ⟨first, outcome, rest, rfl, inside, closing⟩ :=
    Path.split (x := ExceptT.run (transaction (storeFailure policy id message))) path
  have transacted := (careful_storeFailure policy id message).transacted
    (fun _ _ _ refused => refused) inside fun x hx => known x (List.mem_append_left _ hx)
  cases transacted with
  | unopened trouble =>
    obtain ⟨rfl, rfl⟩ := closing
    exact .unopened trouble
  | rolledBack answer unbroken stopped =>
    obtain ⟨rfl, rfl⟩ := closing
    rw [List.append_nil]
    exact .rolledBack answer unbroken stopped
  | uncommitted trouble unbroken passed holds =>
    obtain ⟨rfl, rfl⟩ := closing
    rw [List.append_nil]
    exact .uncommitted (a := default) trouble unbroken passed holds.1
  | @committed body row _ unbroken passed holds logged =>
    obtain ⟨stored, status, named⟩ := holds
    obtain ⟨t, read, -⟩ := toTask_of_status named
    have closing : (lift row.toTask >>= recorded (.fail message)).run.Path rest result := closing
    rw [read] at closing
    obtain ⟨log, _, _, rfl, written, rfl, rfl⟩ :=
      Path.split_lift (x := recordTransition writeLog (.fail message) t) closing
    obtain ⟨answer, _, rfl, written⟩ := written
    -- the answer to the log entry is reported at most
    obtain rfl : _ = [] := by
      cases answer with
      | error trouble => exact written.1
      | ok rows => exact written.1
    subst logged
    rw [List.append_nil, List.append_assoc]
    exact .committed unbroken passed stored ⟨_, answer, rfl⟩

theorem addDependency_commits (task prerequisite : Uuid) :
    CommitsWhenPassed (addDependency task prerequisite).run (refusesEdge task prerequisite)
      (fun body _ => body.map (·.statement) = [.lockEdges, .lockStatus task,
        .taskExists prerequisite, .reaches prerequisite task, .upsertEdge task prerequisite])
      (· = []) := by
  refine .of_transacted fun sent result path known =>
    (careful_insertCheckedEdge task prerequisite).transacted (fun body _ sent => ?_) path known
  rintro ⟨_, _, _, _, rfl, -⟩
  cases sent

/-- What is promised of the operations of several statements, whatever the database answers. -/
structure CommitsExactly (policy : Backoff.Policy) (storage : Backend Session) : Prop where
  enqueue : ∀ spec,
    CommitsWhenPassed (storage.enqueue spec) (refusesRequest spec) (Enqueued spec) (· = [])
  createChain : ∀ specs, specs ≠ [] → CommitsWhenPassed (storage.createChain specs)
    (refusesNext none specs) (ChainStored specs) (· = [])
  /-- A stored failure is logged after the transaction. -/
  fail : ∀ id message, CommitsWhenPassed (storage.fail id message) (fun _ => False)
    (fun body _ => FailureStored policy id message body)
    fun log => ∃ entry answer, log = [.asked ⟨.insertLog entry, answer⟩]
  addDependency : ∀ task prerequisite, CommitsWhenPassed (storage.addDependency task prerequisite)
    (refusesEdge task prerequisite)
    (fun body _ => body.map (·.statement) = [.lockEdges, .lockStatus task,
      .taskExists prerequisite, .reaches prerequisite task, .upsertEdge task prerequisite])
    (· = [])

/-- The operations are committed exactly when they succeed. -/
theorem commits_exactly (policy : Backoff.Policy) : CommitsExactly policy (backend policy) where
  enqueue := enqueue_commits
  createChain _ := createChain_commits
  fail := fail_commits policy
  addDependency := addDependency_commits

/-- A request for a task, the row that is stored for it, and what is sent when all goes well. -/
def mailRequest : NewTask := { taskType := "mail", payload := .null }

def mailTask : Task := .ofNew { mailRequest with payload := .object [] } ⟨1⟩ .epoch

def mailSent : List Sent :=
  [.command .begin_ (.ok ()), .asked ⟨.typeName "mail", .ok ["mail"]⟩,
    .asked ⟨.insertTask mailTask, .ok [.ofTask mailTask]⟩,
    .asked ⟨.notifyEnqueued "mail", .ok []⟩, .command .commit (.ok ())]

theorem commits_exactly_of_mail : ((backend {}).enqueue mailRequest).Path mailSent (.ok mailTask) ∧
    Transacted (refusesRequest mailRequest) (Enqueued mailRequest) (· = []) mailSent
      (.ok mailTask) := by
  have path : ((backend {}).enqueue mailRequest).Path mailSent (.ok mailTask) :=
    ⟨.ok (), _, rfl, .ok ["mail"], _, rfl, ⟨1⟩, .epoch, .ok [.ofTask mailTask], _, rfl, .ok [], _,
      rfl, .ok (), _, rfl, rfl, rfl⟩
  refine ⟨path, ((commits_exactly {}).enqueue mailRequest).transacted _ _ path fun x sent => ?_⟩
  simp only [mailSent, List.mem_cons, Sent.asked.injEq, reduceCtorEq, false_or, or_false,
    List.not_mem_nil] at sent
  rcases sent with rfl | rfl | rfl
  · exact fun _ _ _ _ => trivial
  · rintro _ ⟨⟩ row inserted
    obtain rfl := List.mem_singleton.1 inserted
    exact ⟨.pending, rfl⟩
  · exact fun _ _ _ _ => trivial

end WorkQueue.Database
