import WorkQueue.Proofs.Database.Silence

/-!
# Independence of the log in a database

Two sessions agree if they send the same statements, log entries aside, and reach the same result,
whatever the answers to their log entries are. Agreement is kept by sequencing, a log entry agrees
with nothing at all, and a session without log entries agrees with itself. So every operation of the
storage agrees with itself: the answers to its log entries do not decide what it sends and returns.

## Main definitions

* `Database.Session.Agrees`: sessions that differ in log entries and reports
* `Database.Session.play`: a session with given answers, and others to its log entries

## Main statements

* `Database.agrees_operation`, `Database.agrees_program`: operations and programs agree with
  themselves
* `Database.Session.Agrees.play`: sessions that agree are played alike
* `Database.Session.path_play`: a session that is played goes one of its ways
-/

namespace WorkQueue.Database

open Session

variable {α β : Type}

/-! ### Sessions that agree -/

namespace Session

/-- The same is sent, log entries aside, and the same result is reached. Each session goes on in the
same way whatever the answers to its log entries are. -/
inductive Agrees : Session α → Session α → Prop
  | done (a : α) : Agrees (done a) (done a)
  | run {s : Statement} {next next' : Except Trouble (List s.Row) → Session α}
      (plain : s.isLog = false) (h : ∀ answer, Agrees (next answer) (next' answer)) :
      Agrees (run s next) (run s next')
  | command {c : Command} {next next' : Except Trouble Unit → Session α}
      (h : ∀ answer, Agrees (next answer) (next' answer)) :
      Agrees (command c next) (command c next')
  | ledger {next next' : Except Trouble (List Migration.Mark) → Session α}
      (h : ∀ answer, Agrees (next answer) (next' answer)) : Agrees (ledger next) (ledger next')
  | now {next next' : Timestamp → Session α} (h : ∀ t, Agrees (next t) (next' t)) :
      Agrees (now next) (now next')
  | freshId {next next' : Uuid → Session α} (h : ∀ id, Agrees (next id) (next' id)) :
      Agrees (freshId next) (freshId next')
  | writesLeft {s : Statement} {next : Except Trouble (List s.Row) → Session α} {y : Session α}
      (log : s.isLog = true) (h : ∀ answer, Agrees (next answer) y) : Agrees (run s next) y
  | writesRight {s : Statement} {next : Except Trouble (List s.Row) → Session α} {x : Session α}
      (log : s.isLog = true) (h : ∀ answer, Agrees x (next answer)) : Agrees x (run s next)
  | emitsLeft {event : Telemetry.Event} {next y : Session α} (h : Agrees next y) :
      Agrees (emit event next) y
  | emitsRight {event : Telemetry.Event} {next x : Session α} (h : Agrees x next) :
      Agrees x (emit event next)

theorem Agrees.andThen {x x' : Session α} {f f' : α → Session β} (hx : Agrees x x')
    (hf : ∀ a, Agrees (f a) (f' a)) : Agrees (x.andThen f) (x'.andThen f') := by
  induction hx with
  | done a => exact hf a
  | run plain h ih => exact .run plain ih
  | command h ih => exact .command ih
  | ledger h ih => exact .ledger ih
  | now h ih => exact .now ih
  | freshId h ih => exact .freshId ih
  | writesLeft log h ih => exact .writesLeft log ih
  | writesRight log h ih => exact .writesRight log ih
  | emitsLeft h ih => exact .emitsLeft ih
  | emitsRight h ih => exact .emitsRight ih

/-- What agrees with nothing at all may come first. -/
theorem Agrees.after {x : Session Unit} {f : Unit → Session β} {y : Session β}
    (hx : Agrees x (.done ())) (h : Agrees (f ()) y) : Agrees (x.andThen f) y :=
  @Agrees.andThen Unit β x (.done ()) f (fun _ => y) hx fun _ => h

theorem Agrees.symm {x y : Session α} (h : Agrees x y) : Agrees y x := by
  induction h with
  | done a => exact .done a
  | run plain h ih => exact .run plain ih
  | command h ih => exact .command ih
  | ledger h ih => exact .ledger ih
  | now h ih => exact .now ih
  | freshId h ih => exact .freshId ih
  | writesLeft log h ih => exact .writesRight log ih
  | writesRight log h ih => exact .writesLeft log ih
  | emitsLeft h ih => exact .emitsRight ih
  | emitsRight h ih => exact .emitsLeft ih

/-- Sessions that send nothing but log entries agree if they reach the same result. -/
theorem Agrees.of_done {x y : Session α} {a : α} (hx : Agrees x (.done a))
    (hy : Agrees y (.done a)) : Agrees x y := by
  generalize result : Session.done a = z at hx
  induction hx with
  | done b => exact result ▸ hy.symm
  | writesLeft log h ih => exact .writesLeft log fun answer => ih answer result
  | emitsLeft h ih => exact .emitsLeft (ih result)
  | run | command | ledger | now | freshId | writesRight | emitsRight => cases result

/-- A session without log entries agrees with itself. -/
theorem Silent.agrees {x : Session α} (hx : x.Silent) : Agrees x x := by
  induction x with
  | done a => exact .done a
  | run s next ih => exact .run hx.1 fun answer => ih answer (hx.2 answer)
  | command c next ih => exact .command fun answer => ih answer (hx answer)
  | ledger next ih => exact .ledger fun answer => ih answer (hx answer)
  | now next ih => exact .now fun t => ih t (hx t)
  | freshId next ih => exact .freshId fun id => ih id (hx id)
  | emit event next ih => exact .emitsLeft (.emitsRight (ih hx))

end Session

theorem agrees_bind {x x' : Fallible α} {f f' : α → Fallible β} (hx : Agrees x.run x'.run)
    (hf : ∀ a, Agrees (f a).run (f' a).run) : Agrees (x >>= f).run (x' >>= f').run := by
  refine @Agrees.andThen _ _ _ _ (ExceptT.bindCont f) (ExceptT.bindCont f') hx fun outcome => ?_
  cases outcome with
  | ok a => exact hf a
  | error failure => exact .done _

theorem agrees_emit {event : Telemetry.Event} {x y : Session α} (h : Agrees x y) :
    Agrees (emit event x) (emit event y) :=
  .emitsLeft (.emitsRight h)

/-! ### Log entries -/

/-- A log entry agrees with nothing at all: its failure is reported and otherwise ignored. -/
theorem agrees_appendLog (entry : NewLogEntry) :
    Agrees (appendLog writeLog entry : Session Unit) (done ()) := by
  refine .writesLeft rfl fun answer => ?_
  cases answer with
  | error trouble => exact .emitsLeft (.done ())
  | ok rows => exact .done ()

theorem agrees_recordTransition (transition : Transition) (t : Task) :
    Agrees (recordTransition writeLog transition t : Session Unit) (done ()) := by
  unfold recordTransition
  cases transition.logLine? t with
  | none => exact .done ()
  | some line => exact agrees_appendLog _

theorem agrees_recordClaims (ts : List Task) : Agrees (recordClaims ts) (done ()) := by
  induction ts with
  | nil => exact .done ()
  | cons t ts ih => exact (agrees_recordTransition .claim t).after ih

theorem agrees_recorded (transition : Transition) (t : Task) :
    Agrees (recorded transition t).run (done (.ok t)) := by
  have written : Agrees
      (ExceptT.lift (recordTransition writeLog transition t) : Fallible Unit).run
      (lift (.ok ()) : Fallible Unit).run := (agrees_recordTransition transition t).after (.done _)
  exact @agrees_bind Unit Task _ _ _ (fun _ => lift (.ok t)) written fun _ => .done _

/-- Whatever else it sends, a part that ends by recording a transition agrees with itself. -/
theorem agrees_recorded_self (transition : Transition) (t : Task) :
    Agrees (recorded transition t).run (recorded transition t).run :=
  (agrees_recorded transition t).of_done (agrees_recorded transition t)

/-! ### Operations with log entries -/

theorem agrees_claim (worker : String) (limit : Nat) :
    Agrees (claim worker limit) (claim worker limit) := by
  unfold claim
  split
  · exact .done _
  · refine (silent_rows rfl).agrees.andThen fun answer => ?_
    cases answer with
    | error trouble => exact agrees_emit (.done _)
    | ok rows =>
      dsimp only
      cases toTasks rows with
      | error failure => exact .done _
      | ok ts =>
        suffices rest : Agrees _ (done (.ok ts) : Session (Outcome (List Task))) from
          rest.of_done rest
        refine (agrees_recordClaims ts).after ?_
        split
        · exact .done _
        · exact .emitsLeft (.done _)

theorem agrees_guardedUpdate (id : Uuid) (transition : Transition)
    {update : Session (Except Trouble (Option TaskRow))} (silent : update.Silent) :
    Agrees (guardedUpdate id transition update) (guardedUpdate id transition update) := by
  refine silent.agrees.andThen fun answer => ?_
  cases answer with
  | error trouble => exact agrees_emit (.done _)
  | ok row =>
    cases row with
    | none => exact (silent_rejected id transition.action).agrees
    | some row =>
      exact agrees_bind (silent_lift row.toTask).agrees fun t => agrees_recorded_self transition t

theorem agrees_fail (policy : Backoff.Policy) (id : Uuid) (message : String) :
    Agrees (fail policy id message).run (fail policy id message).run := by
  refine agrees_bind (silent_transaction (silent_storeFailure policy id message)).agrees
    fun row => ?_
  exact agrees_bind (silent_lift _).agrees fun t => agrees_recorded_self _ t

theorem agrees_cancel (id : Uuid) : Agrees (cancel id).run (cancel id).run := by
  refine agrees_bind (silent_attempt (silent_optionalRow rfl)).agrees fun row => ?_
  cases row with
  | none => exact (silent_rejected id .cancel).agrees
  | some row =>
    exact agrees_bind (silent_lift _).agrees fun t => agrees_emit (agrees_recorded_self _ t)

/-- No operation sees what the answers to its log entries are. -/
theorem agrees_operation (policy : Backoff.Policy) (op : Operation) :
    Agrees (op.run (backend policy)) (op.run (backend policy)) := by
  cases op with
  | claim worker limit => exact agrees_claim worker limit
  | complete id => exact agrees_guardedUpdate _ _ (silent_optionalRow rfl)
  | fail id message => exact agrees_fail policy id message
  | cancel id => exact agrees_cancel id
  | _ => exact (silent_operation policy _ rfl).agrees

/-- No program sees what the answers to its log entries are. -/
theorem agrees_program (policy : Backoff.Policy) (n : Nat) (p : Program α) :
    Agrees (p.run (backend policy) (fun _ => done ()) n)
      (p.run (backend policy) (fun _ => done ()) n) := by
  induction p generalizing n with
  | done result => exact .done result
  | call op next ih => exact (agrees_operation policy op).andThen fun outcome => ih outcome (n + 1)
  | append entry next ih =>
    have written := agrees_appendLog entry
    exact (written.of_done written).andThen fun _ => ih (n + 1)

/-! ### Sessions with given answers -/

/-- Answers to all that a session sends and asks of its host, by the number of what came before. -/
structure Answerer where
  run : Nat → (s : Statement) → Except Trouble (List s.Row)
  command : Nat → Command → Except Trouble Unit
  ledger : Nat → Except Trouble (List Migration.Mark)
  now : Nat → Timestamp
  freshId : Nat → Uuid

/-- Answers to log entries, by their number. -/
abbrev LogSink := Nat → (s : Statement) → Except Trouble (List s.Row)

/-- How far a session has been played. -/
structure Played where
  /-- How many answers it has got, those to log entries aside. -/
  steps : Nat := 0
  /-- How many log entries it has written. -/
  writes : Nat := 0
  sent : List Sent := []

/-- What has been sent, log entries aside, with the answers. -/
def Played.unlogged (p : Played) : List Sent := p.sent.filter fun x => !x.isLog

def Played.next (p : Played) (sent : List Sent) : Played :=
  { p with steps := p.steps + 1, sent := p.sent ++ sent }

def Played.wrote (p : Played) (x : Asked) : Played :=
  { p with writes := p.writes + 1, sent := p.sent ++ [.asked x] }

theorem Played.unlogged_next (p : Played) (sent : List Sent) :
    (p.next sent).unlogged = p.unlogged ++ sent.filter fun x => !x.isLog :=
  List.filter_append ..

theorem Played.unlogged_wrote (p : Played) {x : Asked} (log : x.statement.isLog = true) :
    (p.wrote x).unlogged = p.unlogged := by
  simp [Played.wrote, Played.unlogged, Sent.isLog, log]

namespace Session

/-- Plays a session with an answerer, and with a sink for its log entries. -/
def play (answers : Answerer) (sink : LogSink) : Session α → Played → α × Played
  | done a, p => (a, p)
  | run s next, p =>
    if s.isLog then
      (next (sink p.writes s)).play answers sink (p.wrote ⟨s, sink p.writes s⟩)
    else
      (next (answers.run p.steps s)).play answers sink (p.next [.asked ⟨s, answers.run p.steps s⟩])
  | command c next, p =>
    (next (answers.command p.steps c)).play answers sink
      (p.next [.command c (answers.command p.steps c)])
  | ledger next, p =>
    (next (answers.ledger p.steps)).play answers sink (p.next [.ledger (answers.ledger p.steps)])
  | now next, p => (next (answers.now p.steps)).play answers sink (p.next [])
  | freshId next, p => (next (answers.freshId p.steps)).play answers sink (p.next [])
  | emit _ next, p => next.play answers sink p

/-- A session that is played goes one of its ways. -/
theorem path_play (answers : Answerer) (sink : LogSink) (x : Session α) (p : Played) :
    ∃ sent, (x.play answers sink p).2.sent = p.sent ++ sent ∧
      x.Path sent (x.play answers sink p).1 := by
  induction x generalizing p with
  | done a => exact ⟨[], (List.append_nil _).symm, rfl, rfl⟩
  | run s next ih =>
    rw [play]
    split
    · obtain ⟨sent, sent_eq, path⟩ := ih (sink p.writes s) (p.wrote ⟨s, sink p.writes s⟩)
      exact ⟨_ :: sent, by rw [sent_eq]; simp [Played.wrote], _, sent, rfl, path⟩
    · obtain ⟨sent, sent_eq, path⟩ :=
        ih (answers.run p.steps s) (p.next [.asked ⟨s, answers.run p.steps s⟩])
      exact ⟨_ :: sent, by rw [sent_eq]; simp [Played.next], _, sent, rfl, path⟩
  | command c next ih =>
    obtain ⟨sent, sent_eq, path⟩ := ih (answers.command p.steps c)
      (p.next [.command c (answers.command p.steps c)])
    exact ⟨_ :: sent, by rw [play, sent_eq]; simp [Played.next], _, sent, rfl, path⟩
  | ledger next ih =>
    obtain ⟨sent, sent_eq, path⟩ := ih (answers.ledger p.steps)
      (p.next [.ledger (answers.ledger p.steps)])
    exact ⟨_ :: sent, by rw [play, sent_eq]; simp [Played.next], _, sent, rfl, path⟩
  | now next ih =>
    obtain ⟨sent, sent_eq, path⟩ := ih (answers.now p.steps) (p.next [])
    exact ⟨sent, by rw [play, sent_eq]; simp [Played.next], _, path⟩
  | freshId next ih =>
    obtain ⟨sent, sent_eq, path⟩ := ih (answers.freshId p.steps) (p.next [])
    exact ⟨sent, by rw [play, sent_eq]; simp [Played.next], _, path⟩
  | emit event next ih => exact ih p

/-- Sessions that agree get the same answers, whatever their log sinks answer. -/
theorem Agrees.play {x y : Session α} (h : Agrees x y) (answers : Answerer) (sink sink' : LogSink)
    {p q : Played} (steps : p.steps = q.steps) (sent : p.unlogged = q.unlogged) :
    (x.play answers sink p).1 = (y.play answers sink' q).1 ∧
      (x.play answers sink p).2.unlogged = (y.play answers sink' q).2.unlogged := by
  induction h generalizing p q with
  | done a => exact ⟨rfl, sent⟩
  | run plain h ih =>
    rw [Session.play, Session.play, if_neg (by simp [plain]), if_neg (by simp [plain]), ← steps]
    exact ih _ (by simp [Played.next, steps]) (by rw [p.unlogged_next, q.unlogged_next, sent])
  | command h ih | ledger h ih | now h ih | freshId h ih =>
    rw [Session.play, Session.play, ← steps]
    exact ih _ (by simp [Played.next, steps]) (by rw [p.unlogged_next, q.unlogged_next, sent])
  | writesLeft log h ih =>
    rw [Session.play, if_pos log]
    exact ih _ steps (by rw [p.unlogged_wrote log, sent])
  | writesRight log h ih =>
    rw [Session.play, if_pos log]
    exact ih _ steps (by rw [q.unlogged_wrote log, sent])
  | emitsLeft h ih => exact ih steps sent
  | emitsRight h ih => exact ih steps sent

end Session

end WorkQueue.Database
