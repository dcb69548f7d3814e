import WorkQueue.LogEntry
import WorkQueue.Proofs.Memory.Consistency

/-!
# What there is to tell of a task

The successful calls on a task, told one by one: who claimed it for which attempt, which attempt
failed with what consequence, and how the task ended. A start is not told. That the numbers count up
and that claims and failures alternate cannot be seen from any single call; it follows from what the
row says at each point of a run.

## Main definitions

* `Memory.Note`, `Memory.Note.line`: one thing to tell, and its level and text
* `Memory.notesOf`: what a history has to tell of a task
* `Memory.Retried`, `Memory.Ending`, `Memory.Told`: the order in which it is told
* `Memory.Stage`: where the row of a task stands in its story

## Main statements

* `Memory.noted_of_mem_moves`: what each transition has to tell
* `Memory.Run.told`: in every run, every task has a story of this form
-/

namespace WorkQueue.Memory

/-- One thing to tell of a task. -/
inductive Note where
  | claimed (worker : String) (attempt : Int)
  /-- An attempt failed, and the next one may begin at an instant, or there is none. -/
  | failed (attempt : Int) (message : String) (retry : Option Timestamp)
  | completed (attempts : Int)
  | cancelled

def Note.action : Note → Action
  | claimed .. => .claim
  | failed .. => .fail
  | completed _ => .complete
  | cancelled => .cancel

/-- The level and the text of a note. -/
def Note.line : Note → LogLevel × String
  | claimed worker attempt => (.info, s!"Claimed by {worker} for attempt {attempt}")
  | failed attempt message (some retry) =>
    (.error, s!"Attempt {attempt} failed: {message}. Retry scheduled for {retry.toOffsetText}")
  | failed attempt message none =>
    (.error, s!"Attempt {attempt} failed: {message}. Retries exhausted, manual intervention required")
  | completed attempts => (.info, s!"Task completed after {attempts} attempt(s)")
  | cancelled => (.info, "Task cancelled")

theorem Note.level_eq_error_iff (note : Note) : note.line.1 = .error ↔ note.action = .fail := by
  cases note with
  | failed attempt message retry => cases retry <;> simp [line, action]
  | claimed | completed | cancelled => simp [line, action]

/-- What a successful call has to tell of a task, given the row that it left. -/
def Call.note? : Call → Task → Option Note
  | .claim worker _ _, t => some (.claimed worker (t.attempts + 1))
  | .fail _ message _, t => some (.failed t.attempts message t.nextAttemptAt)
  | .complete _ _, t => some (.completed t.attempts)
  | .cancel _ _, _ => some .cancelled
  | _, _ => none

def Exchange.notes (x : Exchange) (id : Uuid) : List Note :=
  (x.moves id).filterMap fun m => x.call.note? m.2

/-- What a history has to tell of a task, in order. -/
def notesOf (history : List Exchange) (id : Uuid) : List Note :=
  history.flatMap fun x => x.notes id

variable {policy : Backoff.Policy} {s : State} {history : List Exchange} {x : Exchange} {id : Uuid}
  {t t' : Task} {action : Action} {notes rounds last : List Note} {n : Int}

@[simp] theorem notesOf_concat (history : List Exchange) (x : Exchange) (id : Uuid) :
    notesOf (history ++ [x]) id = notesOf history id ++ x.notes id := by
  simp [notesOf]

/-! ### Transitions -/

/-- What a transition to a row has to tell. -/
inductive Noted (t : Task) : Action → Option Note → Prop where
  | claim (worker : String) : Noted t .claim (some (.claimed worker (t.attempts + 1)))
  | start : Noted t .start none
  | complete : Noted t .complete (some (.completed t.attempts))
  | fail (message : String) : Noted t .fail (some (.failed t.attempts message t.nextAttemptAt))
  | cancel : Noted t .cancel (some .cancelled)

theorem noted_of_mem_moves (h : (action, t) ∈ x.moves id) : Noted t action (x.call.note? t) := by
  obtain ⟨call, reply⟩ := x
  by_cases claim : action = .claim
  · subst claim
    obtain ⟨inside, -⟩ := mem_batch_of_claim h
    cases call with
    | claim worker limit now => exact .claim worker
    | _ => simp [Exchange.batch] at inside
  · obtain ⟨subject, -⟩ := subject_of_mem_moves h claim
    cases call with
    | start subject' now =>
      obtain ⟨-, rfl⟩ : subject' = id ∧ Action.start = action := by
        simpa [Call.subject?] using subject
      exact .start
    | complete subject' now =>
      obtain ⟨-, rfl⟩ : subject' = id ∧ Action.complete = action := by
        simpa [Call.subject?] using subject
      exact .complete
    | fail subject' message now =>
      obtain ⟨-, rfl⟩ : subject' = id ∧ Action.fail = action := by
        simpa [Call.subject?] using subject
      exact .fail message
    | cancel subject' now =>
      obtain ⟨-, rfl⟩ : subject' = id ∧ Action.cancel = action := by
        simpa [Call.subject?] using subject
      exact .cancel
    | _ => simp [Call.subject?] at subject

/-- Every transition but a start is told, and nothing else. -/
theorem actions_notes (x : Exchange) (id : Uuid) :
    (x.notes id).map Note.action = ((x.moves id).map Prod.fst).filter (· ≠ .start) := by
  have told : ∀ m ∈ x.moves id, (x.call.note? m.2).map Note.action =
      if m.1 = .start then none else some m.1 := by
    rintro ⟨action, t⟩ hm
    have noted := noted_of_mem_moves hm
    generalize x.call.note? t = note at noted ⊢
    cases noted <;> rfl
  unfold Exchange.notes
  -- from here on only the list of transitions matters, not the exchange that it is from
  generalize x.moves id = moves at told ⊢
  induction moves with
  | nil => rfl
  | cons m moves ih =>
    have rest := ih fun m' hm' => told m' (List.mem_cons_of_mem m hm')
    have first := told m List.mem_cons_self
    cases note : x.call.note? m.2 with
    | none =>
      have start : m.1 = .start := by simpa [note] using first
      simp [note, start, rest]
    | some told =>
      by_cases start : m.1 = .start
      · simp [note, start] at first
      · have same : told.action = m.1 := by simpa [note, start] using first
        simp [note, start, same, rest]

theorem actions_notesOf (history : List Exchange) (id : Uuid) :
    (notesOf history id).map Note.action =
      ((movesOf history id).map Prod.fst).filter (· ≠ .start) := by
  induction history with
  | nil => rfl
  | cons x history ih =>
    have split : notesOf (x :: history) id = x.notes id ++ notesOf history id := List.flatMap_cons
    rw [split, movesOf_cons, List.map_append, List.map_append, List.filter_append, ih, actions_notes]

theorem notes_eq_nil (quiet : x.moves id = []) : x.notes id = [] := by
  rw [Exchange.notes, quiet]
  rfl

theorem notesOf_eq_nil (quiet : movesOf history id = []) : notesOf history id = [] := by
  rw [← List.map_eq_nil_iff, actions_notesOf, quiet]
  rfl

/-! ### Stories -/

/-- Claims and failures in turn, with a retry after each failure; the attempts count from one. -/
inductive Retried : Int → List Note → Prop where
  | none : Retried 0 []
  | round {n : Int} {notes : List Note} (before : Retried n notes) (worker message : String)
      (retry : Timestamp) :
      Retried (n + 1) (notes ++ [.claimed worker (n + 1), .failed (n + 1) message (some retry)])

/-- What may follow the last retry that was scheduled, given the number of the next attempt. -/
inductive Ending (attempt : Int) : List Note → Prop where
  | waiting : Ending attempt []
  | cancelled : Ending attempt [.cancelled]
  | claimed (worker : String) : Ending attempt [.claimed worker attempt]
  | completed (worker : String) : Ending attempt [.claimed worker attempt, .completed attempt]
  | exhausted (worker message : String) :
      Ending attempt [.claimed worker attempt, .failed attempt message none]
  | withdrawn (worker : String) : Ending attempt [.claimed worker attempt, .cancelled]

/-- The notes are those of retried attempts with one of the endings. -/
def Told (notes : List Note) : Prop :=
  ∃ n rounds last, notes = rounds ++ last ∧ Retried n rounds ∧ Ending (n + 1) last

/-- Where a row stands after a number of retries, and what has been told since the last one. -/
inductive Stage (t : Task) (n : Int) : List Note → Prop where
  | waiting (status : t.status = .pending ∨ t.status = .failed) (open_ : t.isTerminal = false)
      (attempts : t.attempts = n) : Stage t n []
  | claimed (worker : String) (status : t.status = .claimed) (attempts : t.attempts = n) :
      Stage t n [.claimed worker (n + 1)]
  | started (worker : String) (status : t.status = .processing) (attempts : t.attempts = n + 1) :
      Stage t n [.claimed worker (n + 1)]
  | closed {last : List Note} (terminal : t.isTerminal) (ending : Ending (n + 1) last) :
      Stage t n last

theorem Stage.ending (stage : Stage t n last) : Ending (n + 1) last := by
  cases stage with
  | waiting => exact .waiting
  | claimed worker | started worker => exact .claimed worker
  | closed terminal ending => exact ending

/-- The notes are a story that has led to the row. -/
def Story (t : Task) (notes : List Note) : Prop :=
  ∃ n rounds last, notes = rounds ++ last ∧ Retried n rounds ∧ Stage t n last

theorem Story.told (story : Story t notes) : Told notes := by
  obtain ⟨n, rounds, last, split, retried, stage⟩ := story
  exact ⟨n, rounds, last, split, retried, stage.ending⟩

theorem story_ofNew (checked : NewTask) (id : Uuid) (now : Timestamp) :
    Story (Task.ofNew checked id now) [] :=
  ⟨0, [], [], rfl, .none, .waiting (.inl rfl) rfl rfl⟩

/-! ### Transitions carry stories on -/

theorem Stage.waiting_of_claim (stage : Stage t n last) (move : Moves policy s t .claim t') :
    last = [] ∧ t.attempts = n := by
  have open_ := move.isTerminal_eq_false
  cases move with
  | claim worker now claimable =>
    obtain ⟨_, _, due, _⟩ := State.isClaimable_iff.1 claimable
    have status : t.status = .pending ∨ t.status = .failed := due.imp And.left And.left
    cases stage with
    | waiting _ _ attempts => exact ⟨rfl, attempts⟩
    | claimed _ other | started _ other => simp [other] at status
    | closed terminal => simp [terminal] at open_

theorem Stage.of_processing (stage : Stage t n last) (processing : t.status = .processing) :
    ∃ worker, last = [.claimed worker (n + 1)] ∧ t.attempts = n + 1 := by
  cases stage with
  | started worker _ attempts => exact ⟨worker, rfl, attempts⟩
  | waiting status => simp [processing] at status
  | claimed _ status => simp [processing] at status
  | closed terminal => simp [Task.isTerminal_iff, processing] at terminal

/-- What a transition tells goes on with the story of the row that it left. -/
theorem Story.moved (story : Story t notes) (move : Moves policy s t action t')
    (consistent : t'.Consistent) {note : Option Note} (noted : Noted t' action note) :
    Story t' (notes ++ note.toList) := by
  obtain ⟨n, rounds, last, rfl, retried, stage⟩ := story
  rw [List.append_assoc]
  have status := move.status_eq
  -- earlier rounds stay; the action says at which stage the row was, and where it stands now
  cases noted with
  | claim worker =>
    obtain ⟨rfl, attempts⟩ := stage.waiting_of_claim move
    have same : t'.attempts = n := by
      cases move
      exact attempts
    rw [same]
    exact ⟨n, rounds, _, rfl, retried, .claimed worker status same⟩
  | start =>
    cases move with
    | start now claimed =>
      refine ⟨n, rounds, _, rfl, retried, ?_⟩
      cases stage with
      | claimed worker _ attempts => exact .started worker status (congrArg (· + 1) attempts)
      | waiting other => simp [claimed] at other
      | started _ other => simp [claimed] at other
      | closed terminal => simp [Task.isTerminal_iff, claimed] at terminal
  | complete =>
    cases move with
    | complete now processing =>
      obtain ⟨worker, rfl, attempts⟩ := stage.of_processing processing
      have same : (completedRow now t).attempts = n + 1 := attempts
      rw [same]
      exact ⟨n, rounds, _, rfl, retried,
        .closed (Task.isTerminal_iff.2 (.inl status)) (.completed worker)⟩
  | fail message =>
    -- whether the round is over or the story is depends on the retry that the row has now
    have terminal_iff := consistent.isTerminal_iff_of_failed status
    obtain ⟨worker, rfl, same⟩ : ∃ worker, last = [.claimed worker (n + 1)] ∧
        t'.attempts = n + 1 := by
      cases move with
      | fail type message now processing known => exact stage.of_processing processing
    rw [same]
    cases retry : t'.nextAttemptAt with
    | some r =>
      have open_ : t'.isTerminal = false := by simpa [retry] using terminal_iff
      refine ⟨n + 1, _, [], ?_, retried.round worker message r, .waiting (.inr status) open_ same⟩
      rw [List.append_nil]
      rfl
    | none =>
      exact ⟨n, rounds, _, rfl, retried,
        .closed (terminal_iff.2 retry) (.exhausted worker message)⟩
  | cancel =>
    have open_ := move.isTerminal_eq_false
    refine ⟨n, rounds, _, rfl, retried, .closed (Task.isTerminal_iff.2 (.inr (.inl status))) ?_⟩
    cases stage with
    | waiting => exact .cancelled
    | claimed worker | started worker => exact .withdrawn worker
    | closed terminal => simp [open_] at terminal

/-- The notes of a stored task are the story of its row. -/
theorem Run.story (run : Run policy {} history s) (found : s.find? id = some t) :
    Story t (notesOf history id) := by
  obtain rfl := State.id_of_find? found
  refine run.rows (P := fun history t => Story t (notesOf history t.id)) ?_ ?_ ?_ found
  · intro history x t ih quiet
    rw [notesOf_concat, notes_eq_nil quiet, List.append_nil]
    exact ih
  · intro history s x spec checked id now _ _ none quiet
    show Story _ (notesOf (history ++ [x]) id)
    rw [notesOf_concat, notesOf_eq_nil none, notes_eq_nil quiet]
    exact story_ofNew checked id now
  · intro history s x t action t' run found ih one move
    have consistent : t'.Consistent := move.consistent (run.consistent found)
    have told : x.notes t.id = (x.call.note? t').toList := by
      rw [Exchange.notes, one, List.filterMap_cons, List.filterMap_nil]
      cases x.call.note? t' <;> rfl
    rw [move.id_eq, notesOf_concat, told]
    exact ih.moved move consistent (noted_of_mem_moves (one ▸ List.mem_singleton_self _))

/-- In every run, every task has a story of retried attempts and an ending. -/
theorem Run.told (run : Run policy {} history s) (id : Uuid) : Told (notesOf history id) := by
  cases found : s.find? id with
  | some t => exact (run.story found).told
  | none =>
    rw [notesOf_eq_nil (run.movesOf_eq_nil found)]
    exact ⟨0, [], [], rfl, .none, .waiting⟩

end WorkQueue.Memory
