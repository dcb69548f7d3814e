import WorkQueue.Proofs.Worker.Holding

/-!
# What executions and the ledger say

The same events are told twice: executions end with verdicts, and the ledger holds the calls that
were served. This module reads both lists, one entry at a time.

## Main definitions

* `Worker.ended`: the tasks whose executions have ended with a verdict
* `Worker.performed`: the tasks for which an action was asked with success
* `Worker.lost`: the tasks that were cancelled in flight

## Main statements

* `Worker.performed_concat`, `Worker.lost_concat`: what one more call adds
* `Worker.moves_of_performed`: a successful call has moved the row of its task
-/

namespace WorkQueue.Worker

open Memory (Call Exchange Moves Reply State Step)

variable {policy : Backoff.Policy} {s s' : State} {x : Exchange} {id : Uuid} {worker : String}
  {e : Execution} {entries rest : List Entry} {action : Action} {t : Task}

def Execution.verdict? : Execution → Option Verdict
  | .finished verdict => some verdict
  | _ => none

/-- The tasks of the executions that have ended with a verdict. -/
def ended (verdict : Verdict) (entries : List Entry) : List Uuid :=
  (entries.filter fun x => x.execution.verdict? = some verdict).map (·.id)

/-- The task of a call that was served with success, if the call asked for the action. -/
def performed? (action : Action) (x : Exchange) : Option Uuid :=
  match x.call.subject?, x.reply with
  | some (id, asked), .task _ => if asked = action then some id else none
  | _, _ => none

/-- The tasks for which an action was asked with success, once for each time. -/
def performed (action : Action) (ledger : List Served) : List Uuid :=
  ledger.filterMap fun y => performed? action y.exchange

/-- The tasks that were cancelled while they were in flight, once for each time. -/
def lost (ledger : List Served) : List Uuid :=
  ledger.filterMap fun y => (performed? .cancel y.exchange).filter (· ∈ y.inFlight)

theorem inFlight_append (xs ys : List Entry) :
    inFlight (xs ++ ys) = inFlight xs ++ inFlight ys := by
  simp [inFlight]

theorem ended_append (verdict : Verdict) (xs ys : List Entry) :
    ended verdict (xs ++ ys) = ended verdict xs ++ ended verdict ys := by
  simp [ended]

theorem inFlight_cons_of_unfinished (unfinished : 0 < e.remaining) :
    inFlight (⟨worker, id, e⟩ :: rest) = id :: inFlight rest := by
  simp [inFlight, unfinished]

theorem inFlight_cons_of_finished (finished : e.remaining = 0) :
    inFlight (⟨worker, id, e⟩ :: rest) = inFlight rest := by
  simp [inFlight, finished]

theorem ended_cons_self (verdict : Verdict) :
    ended verdict (⟨worker, id, .finished verdict⟩ :: rest) = id :: ended verdict rest := by
  simp [ended, Execution.verdict?]

theorem ended_cons_of_ne {verdict : Verdict} (other : e.verdict? ≠ some verdict) :
    ended verdict (⟨worker, id, e⟩ :: rest) = ended verdict rest := by
  simp [ended, other]

theorem verdict?_of_unfinished (unfinished : 0 < e.remaining) (verdict : Verdict) :
    e.verdict? ≠ some verdict := by
  cases e with
  | finished => exact absurd unfinished (Nat.lt_irrefl 0)
  | claimed | started | handled => simp [Execution.verdict?]

theorem mem_inFlight {id : Uuid} :
    id ∈ inFlight entries ↔ ∃ x ∈ entries, 0 < x.execution.remaining ∧ x.id = id := by
  simp [inFlight, and_assoc]

theorem mem_ended {verdict : Verdict} {id : Uuid} :
    id ∈ ended verdict entries ↔ ∃ x ∈ entries, x.execution = .finished verdict ∧ x.id = id := by
  have finished : ∀ e : Execution, e.verdict? = some verdict ↔ e = .finished verdict := by
    intro e
    cases e <;> simp [Execution.verdict?]
  simp [ended, finished, and_assoc]

theorem performed_concat (action : Action) (ledger : List Served) (x : Exchange) (ids : List Uuid) :
    performed action (ledger ++ [⟨x, ids⟩]) =
      performed action ledger ++ (performed? action x).toList := by
  rw [performed, List.filterMap_append]
  cases h : performed? action x <;> simp [performed, h]

theorem lost_concat (ledger : List Served) (x : Exchange) (ids : List Uuid) :
    lost (ledger ++ [⟨x, ids⟩]) =
      lost ledger ++ ((performed? .cancel x).filter (· ∈ ids)).toList := by
  rw [lost, List.filterMap_append]
  cases h : (performed? .cancel x).filter (· ∈ ids) <;> simp [lost, h]

/-- A call that cancels nothing loses nothing. -/
theorem lost_concat_of_none (ledger : List Served) (ids : List Uuid)
    (h : performed? .cancel x = none) : lost (ledger ++ [⟨x, ids⟩]) = lost ledger := by
  rw [lost_concat, h, Option.filter_none, Option.toList_none, List.append_nil]

theorem performed?_eq_some_iff :
    performed? action x = some id ↔
      x.call.subject? = some (id, action) ∧ ∃ t, x.reply = .task t := by
  obtain ⟨call, reply⟩ := x
  unfold performed?
  cases call.subject? with
  | none => simp
  | some subject =>
    cases reply with
    | task t =>
      obtain ⟨id', action'⟩ := subject
      by_cases h : action' = action <;> simp [h]
    | refused | tasks | edge | type => simp

theorem performed?_refused (action : Action) (call : Call) (failure : Failure) :
    performed? action ⟨call, .refused failure⟩ = none := by
  unfold performed?
  cases call.subject? <;> rfl

theorem performed?_task {call : Call} {asked : Action} (subject : call.subject? = some (id, asked))
    (action : Action) (t : Task) :
    performed? action ⟨call, .task t⟩ = if asked = action then some id else none := by
  simp only [performed?, subject]

/-- A successful call has moved the row of its task. -/
theorem moves_of_performed (step : Step policy s x s') (hs : s.Keyed)
    (h : performed? action x = some id) : ∃ old t, s.find? id = some old ∧
      s'.find? id = some t ∧ Moves policy s old action t := by
  obtain ⟨subject, t, reply⟩ := performed?_eq_some_iff.1 h
  have moved : (action, t) ∈ x.moves id := by
    obtain ⟨call, _⟩ := x
    obtain rfl : _ = Reply.task t := reply
    rw [Memory.moves_subject subject, if_pos rfl]
    exact List.mem_singleton_self _
  obtain ⟨old, found, found', move⟩ := step.of_mem_moves hs moved
  exact ⟨old, t, found, found', move⟩

/-- Another caller moves no row but that of the task that it cancels. -/
theorem moves_eq_nil_of_external (external : x.call.External)
    (other : performed? .cancel x ≠ some id) : x.moves id = [] := by
  rw [List.eq_nil_iff_forall_not_mem]
  rintro ⟨action, t⟩ h
  obtain rfl : action = .cancel := Memory.action_of_external external h
  obtain ⟨subject, reply⟩ := Memory.subject_of_mem_moves h (by decide)
  exact other (performed?_eq_some_iff.2 ⟨subject, t, reply⟩)

theorem performed?_fail_of_external (external : x.call.External) : performed? .fail x = none := by
  rw [Option.eq_none_iff_forall_ne_some]
  intro id h
  have subject := (performed?_eq_some_iff.1 h).1
  obtain ⟨call, reply⟩ := x
  cases call with
  | enqueue | createChain | addDependency | upsertType | cancel => cases subject
  | claim | start | complete | fail => cases external

theorem find?_of_moves_eq_nil (step : Step policy s x s') (hs : s.Keyed)
    (found : s.find? id = some t) (quiet : x.moves id = []) : s'.find? id = some t := by
  have row := step.row hs id
  rw [quiet] at row
  generalize s'.find? id = after at row ⊢
  cases row with
  | kept => exact found
  | created now unknown => simp [unknown] at found

/-- The executions of a claimed batch. -/
def claimedEntries (worker : String) (ts : List Task) : List Entry :=
  ts.map fun t => ⟨worker, t.id, .claimed t.id⟩

theorem inFlight_claimedEntries (worker : String) (ts : List Task) :
    inFlight (claimedEntries worker ts) = ts.map (·.id) := by
  induction ts with
  | nil => rfl
  | cons t ts ih =>
    have unfinished : 0 < (Execution.claimed t.id).remaining := Nat.succ_pos 2
    show inFlight (⟨worker, t.id, .claimed t.id⟩ :: claimedEntries worker ts) = _
    rw [inFlight_cons_of_unfinished unfinished, ih]
    rfl

theorem ended_claimedEntries (verdict : Verdict) (worker : String) (ts : List Task) :
    ended verdict (claimedEntries worker ts) = [] := by
  simp [ended, claimedEntries, Execution.verdict?]

end WorkQueue.Worker
