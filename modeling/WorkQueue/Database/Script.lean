import WorkQueue.Database.Session

/-!
# Scripted databases

A database that answers from a prepared list instead of from tables. It records what it is sent, so
that sessions can be followed statement by statement.

## Main definitions

* `Database.Script.Entry`: a prepared answer
* `Database.Script`: the answers left, and what has been sent
* `Database.Script.answer`, `command`: how a script answers
-/

namespace WorkQueue.Database

/-- A prepared answer. -/
inductive Script.Entry where
  | rows (kind : Kind) (found : List kind.Row)
  /-- No rows. -/
  | nothing
  /-- The server refuses the statement. -/
  | refuse (text : String)
  /-- The connection ends. -/
  | close
  /-- A notification on the channel of enqueued tasks. -/
  | notify (taskType : String)

/-- A scripted database. -/
structure Script where
  entries : List Script.Entry := []
  /-- What was sent, last first: each text with its values. -/
  sent : List (String × List Json) := []
  marks : List Migration.Mark := []
  /-- The connection has ended and no other one has been opened. -/
  closed : Bool := false
  /-- A session listens for notifications. -/
  listening : Bool := false
  /-- The notifications delivered to a listener, first one first. -/
  delivered : List String := []

namespace Script

/-- Notes what is sent. -/
def note (s : Script) (text : String) (values : List Json) : Script :=
  { s with sent := (text, values) :: s.sent }

/-- The rows of an entry as rows of a kind; rows of another kind are none. -/
def Entry.rowsOf (kind : Kind) : Entry → List kind.Row
  | .rows given found => if h : given = kind then h ▸ found else []
  | _ => []

/-- The notifications at the head of some entries, and the entries after them. -/
def takeNotifications : List Entry → List String × List Entry
  | .notify taskType :: rest =>
    let (more, left) := takeNotifications rest
    (taskType :: more, left)
  | entries => ([], entries)

/-- Delivers the notifications that are next to a listener, if there is one. -/
def deliver (s : Script) : Script :=
  if s.listening then
    let (taskTypes, left) := takeNotifications s.entries
    { s with entries := left, delivered := s.delivered ++ taskTypes }
  else s

/-- Answers a statement with the next entry; a new connection is opened if the last one ended. -/
def answer (s : Script) (statement : Statement) :
    Except Trouble (List statement.Row) × Script :=
  let s := { s.note statement.text (statement.values.map (·.toJson)) with closed := false }
  match s.entries with
  | [] => (.error .unanswered, s)
  | entry :: rest =>
    let s := { s with entries := rest }.deliver
    match entry with
    | .refuse text => (.error (.refused text), s)
    | .close => (.error .closed, { s with closed := true })
    | entry => (.ok (entry.rowsOf statement.kind), s)

/-- Carries out a command. A connection that has ended is not told to roll back. -/
def command (s : Script) : Command → Script
  | .begin_ => { s.note "BEGIN" [] with closed := false }
  | .commit => s.note "COMMIT" []
  | .rollback => if s.closed then s else s.note "ROLLBACK" []
  | .listen => { s.note s!"LISTEN \"{enqueueChannel}\"" [] with listening := true }.deliver
  | .migrate migration => s.note migration.text []
  | .noteMigration migration =>
    s.note "(migration recorded)" [.nat migration.version, .text migration.description]

/-- Runs sessions on a script that is part of a state. -/
def executor {m : Type → Type} [Monad m] [MonadStateOf Script m] : Session.Executor m where
  run statement := modifyGetThe Script fun s => s.answer statement
  command c := modifyGetThe Script fun s => (.ok (), s.command c)
  ledger := do return .ok (← getThe Script).marks

end Script

end WorkQueue.Database
