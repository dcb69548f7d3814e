import WorkQueue.Database.Store
import WorkQueue.Simulation.World

/-!
# What sessions send

All ways in which a session can go, whatever the database answers: what is sent, with the answers,
and the result. A part of a session is careful if it sends statements only as long as every check
passes, and fails as soon as one does not; carefulness is kept by sequencing. A careful part inside
a transaction is committed exactly when all its checks have passed.

## Main definitions

* `Database.Sent`, `Database.Session.Path`: what is sent, and the ways that a session can go
* `Database.Asked.Passes`: the check that a statement's answer has to pass
* `Database.Careful`: a part that stops at the first check that does not pass
* `Database.Transacted`: what a transaction around such a part sends and returns

## Main statements

* `Database.Session.path_interpret`: every run is one of the ways
* `Database.Careful.bind`: careful parts one after the other
* `Database.Careful.transacted`: a transaction around a careful part
-/

namespace WorkQueue.Database

open Session

variable {α β : Type}

/-- A statement that was sent, with its answer. -/
structure Asked where
  statement : Statement
  answer : Except Trouble (List statement.Row)

/-- What a session sent, with the answer. -/
inductive Sent where
  | asked (x : Asked)
  | command (c : Command) (answer : Except Trouble Unit)
  | ledger (answer : Except Trouble (List Migration.Mark))

/-! ### Ways of a session -/

namespace Session

/-- A session can send this, with these answers, and yield this result. The answers are any, and so
are the times and identifiers that the host provides. -/
def Path : Session α → List Sent → α → Prop
  | done a, sent, result => sent = [] ∧ result = a
  | run s next, sent, result =>
    ∃ answer rest, sent = .asked ⟨s, answer⟩ :: rest ∧ (next answer).Path rest result
  | command c next, sent, result =>
    ∃ answer rest, sent = .command c answer :: rest ∧ (next answer).Path rest result
  | ledger next, sent, result =>
    ∃ answer rest, sent = .ledger answer :: rest ∧ (next answer).Path rest result
  | now next, sent, result => ∃ t, (next t).Path sent result
  | freshId next, sent, result => ∃ id, (next id).Path sent result
  | emit _ next, sent, result => next.Path sent result

/-- A way of two sessions one after the other is a way of each. -/
theorem Path.split {x : Session α} {f : α → Session β} {sent : List Sent} {b : β}
    (path : (x.andThen f).Path sent b) :
    ∃ first a rest, sent = first ++ rest ∧ x.Path first a ∧ (f a).Path rest b := by
  induction x generalizing sent with
  | done a => exact ⟨[], a, sent, rfl, ⟨rfl, rfl⟩, path⟩
  | run s next ih | command c next ih | ledger next ih =>
    obtain ⟨answer, rest, rfl, path⟩ := path
    obtain ⟨first, a, rest, rfl, begun, continued⟩ := ih answer path
    exact ⟨_, a, rest, rfl, ⟨answer, first, rfl, begun⟩, continued⟩
  | now next ih | freshId next ih =>
    obtain ⟨value, path⟩ := path
    obtain ⟨first, a, rest, rfl, begun, continued⟩ := ih value path
    exact ⟨first, a, rest, rfl, ⟨value, begun⟩, continued⟩
  | emit event next ih => exact ih path

theorem Path.split_lift {x : Session α} {f : α → Fallible β} {sent : List Sent} {result : Outcome β}
    (path : (ExceptT.lift x >>= f).run.Path sent result) : ∃ first a rest, sent = first ++ rest ∧
      x.Path first a ∧ (f a).run.Path rest result := by
  obtain ⟨_, outcome, rest, rfl, lifted, continued⟩ :=
    Path.split (x := (ExceptT.lift x : Fallible α).run) (f := ExceptT.bindCont f) path
  obtain ⟨first, a, _, rfl, begun, rfl, rfl⟩ := Path.split (x := x) lifted
  exact ⟨first, a, rest, by rw [List.append_nil], begun, continued⟩

/-- What a session sends when it is run in a world. -/
def transcript (e : Executor Simulation.Sim) : Session α → Simulation.World → List Sent
  | done _, _ => []
  | run s next, w =>
    let (answer, w') := (e.run s).run w
    .asked ⟨s, answer⟩ :: (next answer).transcript e w'
  | command c next, w =>
    let (answer, w') := (e.command c).run w
    .command c answer :: (next answer).transcript e w'
  | ledger next, w =>
    let (answer, w') := e.ledger.run w
    .ledger answer :: (next answer).transcript e w'
  | now next, w => (next w.clock).transcript e w
  | freshId next, w =>
    let (id, w') := (Host.freshId : Simulation.Sim Uuid).run w
    (next id).transcript e w'
  | emit event next, w => next.transcript e ((Host.emit event : Simulation.Sim Unit).run w).2

/-- Every run of a session is one of its ways. -/
theorem path_interpret (e : Executor Simulation.Sim) (x : Session α) (w : Simulation.World) :
    x.Path (x.transcript e w) ((x.interpret e).run w).1 := by
  induction x generalizing w with
  | done a => exact ⟨rfl, rfl⟩
  | run s next ih | command c next ih | ledger next ih => exact ⟨_, _, rfl, ih _ _⟩
  | now next ih | freshId next ih => exact ⟨_, ih _ _⟩
  | emit event next ih => exact ih _

end Session

/-! ### Checks on answers -/

/-- The check on the rows that answer a statement: mostly that there is one. A locked task has to be
in processing, a prerequisite has to exist, and a task must not be reached from its prerequisite. -/
def Statement.Accepts : (s : Statement) → List s.Row → Prop
  | .lockTask _, rows =>
    ∃ row, (rows : List TaskRow).head? = some row ∧ row.status = Status.processing.name
  | .taskExists _, rows => (rows : List Bool).head? = some true
  | .reaches _ _, rows => (rows : List Bool).head? = some false
  | .insertEdge _, _ | .notifyEnqueued _, _ | .lockEdges, _ => True
  | _, rows => rows ≠ []

/-- A status that a row holds is one of the known ones. -/
def Statement.Known : (s : Statement) → s.Row → Prop
  | .lockStatus _, name => ∃ status : Status, name = status.name
  | .insertTask _, row | .lockTask _, row | .failTask .., row | .startTask _, row
  | .completeTask _, row | .cancelTask _, row | .claimTasks .., row | .taskById _, row
  | .listTasks .., row => ∃ status : Status, (row : TaskRow).status = status.name
  | _, _ => True

namespace Asked

/-- There is an answer, and it passes its check. -/
def Passes (x : Asked) : Prop := ∃ rows, x.answer = .ok rows ∧ x.statement.Accepts rows

/-- The rows of the answer hold known statuses. -/
def Known (x : Asked) : Prop := ∀ rows, x.answer = .ok rows → ∀ row ∈ rows, x.statement.Known row

end Asked

/-! ### Careful parts -/

/-- A check does not pass after these statements: the one on the last answer, or one that the part
makes by itself. -/
def Stopped (refuses : List Asked → Prop) (body : List Asked) : Prop :=
  (∃ x, body.getLast? = some x ∧ ¬ x.Passes) ∨ refuses body

/-- No statement is sent after a check that does not pass. -/
def Unbroken (refuses : List Asked → Prop) (body : List Asked) : Prop :=
  ∀ first x rest, body = first ++ x :: rest → ¬ Stopped refuses first

/-- The last answer, if there is one, passes its check. -/
def LastPasses (body : List Asked) : Prop := ∀ x, body.getLast? = some x → x.Passes

/-- How a careful part ends. -/
inductive Ends (refuses : List Asked → Prop) (post : List Asked → α → Prop) (body : List Asked) :
    Outcome α → Prop where
  | failed {failure : Failure} (stopped : Stopped refuses body) :
      Ends refuses post body (.error failure)
  | passed {a : α} (last : LastPasses body) (holds : post body a) : Ends refuses post body (.ok a)

/-- A part sends nothing but statements, none of them after a check that does not pass. It fails if
and only if one does not pass; otherwise `post` holds of its statements and its result. -/
def Careful (part : Fallible α) (refuses : List Asked → Prop) (post : List Asked → α → Prop) :
    Prop :=
  ∀ sent result, part.run.Path sent result → (∀ x, .asked x ∈ sent → x.Known) →
    ∃ body : List Asked, sent = body.map .asked ∧ Unbroken refuses body ∧
      Ends refuses post body result

variable {refuses : List Asked → Prop} {post : List Asked → β → Prop} {s : Statement}
  {body more : List Asked} {result : Outcome β}

/-! ### Statements after statements -/

theorem LastPasses.append (first : LastPasses body) (second : LastPasses more) :
    LastPasses (body ++ more) := by
  intro x final
  cases more with
  | nil => exact first x (by rwa [List.append_nil] at final)
  | cons y more =>
    rw [List.getLast?_append, List.getLast?_cons, Option.some_or, ← List.getLast?_cons] at final
    exact second x final

/-- After statements whose answers pass, a check stops the whole if it stops the rest. -/
theorem stopped_append (first : LastPasses body) : Stopped refuses (body ++ more) ↔
    Stopped (fun more => refuses (body ++ more)) more := by
  refine or_congr_left ?_
  cases more with
  | nil =>
    refine iff_of_false ?_ (by simp)
    rintro ⟨x, final, fails⟩
    exact fails (first x (by rwa [List.append_nil] at final))
  | cons y more => rw [List.getLast?_append, List.getLast?_cons, Option.some_or]

theorem Unbroken.nil : Unbroken refuses [] := by
  intro first x rest split
  exact absurd split.symm (List.append_ne_nil_of_right_ne_nil _ (List.cons_ne_nil _ _))

theorem Unbroken.append (first : Unbroken refuses body) (last : LastPasses body)
    (second : Unbroken (fun more => refuses (body ++ more)) more) :
    Unbroken refuses (body ++ more) := by
  intro before x rest split
  rcases List.append_eq_append_iff.1 split with ⟨as, rfl, inside⟩ | ⟨cs, rfl, inside⟩
  · rw [stopped_append last]
    exact second as x rest inside
  · cases cs with
    | nil =>
      rw [List.append_nil] at last second
      rw [← List.append_nil before, stopped_append last]
      exact second [] x rest inside.symm
    | cons y cs =>
      obtain ⟨rfl, -⟩ := List.cons.inj inside
      exact first before _ cs rfl

theorem Ends.append (last : LastPasses body)
    (ends : Ends (fun more => refuses (body ++ more)) (fun more => post (body ++ more)) more
      result) : Ends refuses post (body ++ more) result := by
  cases ends with
  | failed stopped => exact .failed ((stopped_append last).2 stopped)
  | passed last' holds => exact .passed (last.append last') holds

/-! ### Rules for careful parts -/

/-- Careful parts one after the other. -/
theorem Careful.bind {x : Fallible α} {f : α → Fallible β} {R : List Asked → α → Prop}
    (hx : Careful x refuses R)
    (hf : ∀ body a, R body a →
      Careful (f a) (fun more => refuses (body ++ more)) fun more => post (body ++ more)) :
    Careful (x >>= f) refuses post := by
  intro sent result path known
  obtain ⟨first, outcome, rest, rfl, begun, continued⟩ :=
    Path.split (x := x.run) (f := ExceptT.bindCont f) path
  obtain ⟨body, rfl, unbroken, ends⟩ :=
    hx first outcome begun fun x hx => known x (List.mem_append_left _ hx)
  cases ends with
  | failed stopped =>
    obtain ⟨rfl, rfl⟩ := continued
    exact ⟨body, List.append_nil _, unbroken, .failed stopped⟩
  | passed last holds =>
    obtain ⟨more, rfl, unbroken', ends⟩ :=
      hf body _ holds rest result continued fun x hx => known x (List.mem_append_right _ hx)
    exact ⟨body ++ more, List.map_append.symm, unbroken.append last unbroken', ends.append last⟩

theorem Careful.mono {part : Fallible β} {refuses' : List Asked → Prop}
    {post' : List Asked → β → Prop} (careful : Careful part refuses' post')
    (same : ∀ body, refuses' body ↔ refuses body) (weaker : ∀ body b, post' body b → post body b) :
    Careful part refuses post := by
  obtain rfl : refuses' = refuses := funext fun body => propext (same body)
  intro sent result path known
  obtain ⟨body, rfl, unbroken, ends⟩ := careful sent result path known
  refine ⟨body, rfl, unbroken, ?_⟩
  cases ends with
  | failed stopped => exact .failed stopped
  | passed last holds => exact .passed last (weaker body _ holds)

/-- A result without statements. -/
theorem careful_lift (failed : ∀ failure, result = .error failure → refuses [])
    (passed : ∀ b, result = .ok b → post [] b) : Careful (lift result) refuses post := by
  rintro _ result ⟨rfl, rfl⟩ _
  refine ⟨[], rfl, .nil, ?_⟩
  cases result with
  | error failure => exact .failed (.inr (failed failure rfl))
  | ok b => exact .passed (fun x final => by cases final) (passed b rfl)

theorem careful_pure {b : β} (holds : post [] b) : Careful (pure b) refuses post := by
  show Careful (lift (.ok b)) refuses post
  refine careful_lift (fun failure h => by cases h) fun b' h => ?_
  cases h
  exact holds

theorem careful_throw {failure : Failure} (refused : refuses []) :
    Careful (throw failure) refuses post := by
  show Careful (lift (.error failure)) refuses post
  exact careful_lift (fun _ _ => refused) fun _ h => by cases h

/-- Times and identifiers come from the host. -/
theorem careful_now {f : Timestamp → Fallible β} (next : ∀ t, Careful (f t) refuses post) :
    Careful ((Host.now : Session Timestamp) >>= f) refuses post := by
  rintro sent result ⟨t, path⟩
  exact next t sent result path

theorem careful_freshId {f : Uuid → Fallible β} (next : ∀ id, Careful (f id) refuses post) :
    Careful ((Host.freshId : Session Uuid) >>= f) refuses post := by
  rintro sent result ⟨id, path⟩
  exact next id sent result path

/-- Nothing is sent any more, and the part fails. -/
def Fails (part : Fallible β) : Prop :=
  ∀ sent result, part.run.Path sent result → sent = [] ∧ ∃ failure, result = .error failure

theorem fails_throw {failure : Failure} : Fails (throw failure : Fallible β) := by
  rintro _ _ ⟨rfl, rfl⟩
  exact ⟨rfl, failure, rfl⟩

/-- A statement is sent if nothing has stopped the part before. -/
theorem careful_run {next : Except Trouble (List s.Row) → Fallible β} (clear : ¬ refuses [])
    (broken : ∀ trouble, Fails (next (.error trouble)))
    (failing : ∀ rows, ¬ s.Accepts rows → Fails (next (.ok rows)))
    (passing : ∀ rows, s.Accepts rows → (∀ row ∈ rows, s.Known row) →
      Careful (next (.ok rows)) (fun more => refuses (⟨s, .ok rows⟩ :: more))
        fun more => post (⟨s, .ok rows⟩ :: more)) :
    Careful (ExceptT.mk (run s next)) refuses post := by
  rintro sent result ⟨answer, rest, rfl, path⟩ known
  have alone : Unbroken refuses [⟨s, answer⟩] := by
    rintro first x rest split (⟨y, final, -⟩ | refused)
    all_goals cases first with
      | nil => first | exact clear refused | cases final
      | cons z first => simp at split
  have ends : ¬ Asked.Passes ⟨s, answer⟩ → Fails (next answer) →
      ∃ body : List Asked, .asked ⟨s, answer⟩ :: rest = body.map .asked ∧ Unbroken refuses body ∧
        Ends refuses post body result := by
    intro refused fails
    obtain ⟨rfl, failure, rfl⟩ := fails rest result path
    exact ⟨[⟨s, answer⟩], rfl, alone, .failed (.inl ⟨_, rfl, refused⟩)⟩
  cases answer with
  | error trouble =>
    refine ends ?_ (broken trouble)
    rintro ⟨rows, answered, -⟩
    cases answered
  | ok rows =>
    by_cases accepted : s.Accepts rows
    · have last : LastPasses [⟨s, .ok rows⟩] := by
        rintro x final
        cases final
        exact ⟨rows, rfl, accepted⟩
      obtain ⟨more, rfl, unbroken, ends⟩ := passing rows accepted
        (known _ (List.mem_cons_self ..) rows rfl) rest result path
        fun x hx => known x (List.mem_cons_of_mem _ hx)
      exact ⟨⟨s, .ok rows⟩ :: more, rfl, alone.append last unbroken, ends.append last⟩
    · refine ends ?_ (failing rows accepted)
      rintro ⟨rows', answered, accepted'⟩
      cases answered
      exact accepted accepted'

theorem careful_optionalRow {f : Option s.Row → Fallible β} (clear : ¬ refuses [])
    (failing : ∀ rows, ¬ s.Accepts rows → Fails (f rows.head?))
    (passing : ∀ rows, s.Accepts rows → (∀ row ∈ rows, s.Known row) →
      Careful (f rows.head?) (fun more => refuses (⟨s, .ok rows⟩ :: more))
        fun more => post (⟨s, .ok rows⟩ :: more)) :
    Careful (attempt (optionalRow s) >>= f) refuses post :=
  careful_run clear (fun _ => fails_throw) failing passing

/-- The check is that there is a row. -/
theorem careful_someRow {f : Option s.Row → Fallible β} (clear : ¬ refuses [])
    (accepts : ∀ rows, s.Accepts rows ↔ rows ≠ []) (failing : Fails (f none))
    (passing : ∀ row rows, s.Known row → Careful (f (some row))
      (fun more => refuses (⟨s, .ok (row :: rows)⟩ :: more))
      fun more => post (⟨s, .ok (row :: rows)⟩ :: more)) :
    Careful (attempt (optionalRow s) >>= f) refuses post := by
  refine careful_optionalRow clear (fun rows refused => ?_) fun rows accepted known => ?_
  · obtain rfl : rows = [] := by simpa [accepts] using refused
    exact failing
  · obtain ⟨row, rows, rfl⟩ := List.exists_cons_of_ne_nil ((accepts _).1 accepted)
    exact passing row rows (known row (List.mem_cons_self ..))

theorem careful_oneRow {f : s.Row → Fallible β} (clear : ¬ refuses []) (nonempty : ¬ s.Accepts [])
    (failing : ∀ row rows, ¬ s.Accepts (row :: rows) → Fails (f row))
    (passing : ∀ row rows, s.Accepts (row :: rows) → s.Known row →
      Careful (f row) (fun more => refuses (⟨s, .ok (row :: rows)⟩ :: more))
        fun more => post (⟨s, .ok (row :: rows)⟩ :: more)) :
    Careful (attempt (oneRow s) >>= f) refuses post := by
  refine careful_run clear (fun _ => fails_throw) (fun rows refused => ?_)
    fun rows accepted known => ?_
  · cases rows with
    | nil => exact fails_throw
    | cons row rows => exact failing row rows refused
  · cases rows with
    | nil => exact absurd accepted nonempty
    | cons row rows => exact passing row rows accepted (known row (List.mem_cons_self ..))

/-- The row is the result. -/
theorem careful_lastRow {post : List Asked → s.Row → Prop} (clear : ¬ refuses [])
    (accepts : ∀ rows, s.Accepts rows ↔ rows ≠ [])
    (holds : ∀ row rows, s.Known row → post [⟨s, .ok (row :: rows)⟩] row) :
    Careful (attempt (oneRow s)) refuses post := by
  refine careful_run clear (fun _ => fails_throw) (fun rows refused => ?_)
    fun rows accepted known => ?_
  · obtain rfl : rows = [] := by simpa [accepts] using refused
    exact fails_throw
  · obtain ⟨row, rows, rfl⟩ := List.exists_cons_of_ne_nil ((accepts _).1 accepted)
    exact careful_pure (holds row rows (known row (List.mem_cons_self ..)))

theorem careful_execute {f : Unit → Fallible β} (clear : ¬ refuses [])
    (accepts : ∀ rows, s.Accepts rows)
    (next : ∀ answer, Careful (f ()) (fun more => refuses (⟨s, answer⟩ :: more))
      fun more => post (⟨s, answer⟩ :: more)) :
    Careful (attempt (execute s) >>= f) refuses post :=
  careful_run clear (fun _ => fails_throw) (fun rows refused => absurd (accepts rows) refused)
    fun _ _ _ => next _

/-! ### Transactions -/

/-- What a transaction around a careful part sends and returns. All statements lie between the
commands; `log` is what is sent afterwards. -/
inductive Transacted (refuses : List Asked → Prop) (post : List Asked → α → Prop)
    (log : List Sent → Prop) : List Sent → Outcome α → Prop where
  /-- The transaction cannot be opened, and nothing else is sent. -/
  | unopened (trouble : Trouble) :
      Transacted refuses post log [.command .begin_ (.error trouble)] (.error trouble.toFailure)
  /-- A check does not pass. -/
  | rolledBack {body : List Asked} {failure : Failure} (answer : Except Trouble Unit)
      (unbroken : Unbroken refuses body) (stopped : Stopped refuses body) :
      Transacted refuses post log
        (.command .begin_ (.ok ()) :: body.map .asked ++ [.command .rollback answer])
        (.error failure)
  /-- All checks pass, and the transaction cannot be committed. -/
  | uncommitted {body : List Asked} {a : α} (trouble : Trouble) (unbroken : Unbroken refuses body)
      (passed : ¬ Stopped refuses body) (holds : post body a) :
      Transacted refuses post log
        (.command .begin_ (.ok ()) :: body.map .asked ++ [.command .commit (.error trouble)])
        (.error trouble.toFailure)
  | committed {body : List Asked} {a : α} {after : List Sent} (unbroken : Unbroken refuses body)
      (passed : ¬ Stopped refuses body) (holds : post body a) (logged : log after) :
      Transacted refuses post log
        (.command .begin_ (.ok ()) :: body.map .asked ++ .command .commit (.ok ()) :: after) (.ok a)

/-- It succeeds if and only if it is committed. -/
theorem Transacted.ok_iff {log : List Sent → Prop} {sent : List Sent}
    (h : Transacted refuses post log sent result) :
    (∃ b, result = .ok b) ↔ .command .commit (.ok ()) ∈ sent := by
  cases h <;> simp

/-- A careful part inside a transaction. Once it has succeeded, no check of its own is left. -/
theorem Careful.transacted {part : Fallible β} (careful : Careful part refuses post)
    (final : ∀ body b, post body b → ¬ refuses body) {sent : List Sent}
    (path : (transaction part).run.Path sent result) (known : ∀ x, .asked x ∈ sent → x.Known) :
    Transacted refuses post (· = []) sent result := by
  obtain ⟨opened, rest, rfl, path⟩ := path
  cases opened with
  | error trouble =>
    obtain ⟨rfl, rfl⟩ := path
    exact .unopened trouble
  | ok _ =>
    obtain ⟨first, outcome, rest, rfl, inside, closing⟩ := Path.split_lift (x := part.run) path
    obtain ⟨body, rfl, unbroken, ends⟩ := careful first outcome inside fun x hx =>
      known x (List.mem_cons_of_mem _ (List.mem_append_left _ hx))
    cases ends with
    | failed stopped =>
      obtain ⟨answer, rest, rfl, rfl, rfl⟩ := closing
      exact .rolledBack answer unbroken stopped
    | passed last holds =>
      have passed : ¬ Stopped refuses body := by
        rintro (⟨x, finalAnswer, fails⟩ | refused)
        · exact fails (last x finalAnswer)
        · exact final body _ holds refused
      obtain ⟨committed, rest, rfl, ended⟩ := closing
      cases committed with
      | error trouble =>
        obtain ⟨rfl, rfl⟩ := ended
        exact .uncommitted trouble unbroken passed holds
      | ok _ =>
        obtain ⟨rfl, rfl⟩ := ended
        exact .committed unbroken passed holds rfl

end WorkQueue.Database
