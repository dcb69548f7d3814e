import WorkQueue.Proofs.Worker.Ledger

/-!
# Books of a crew

Executions, ledger and rows tell the same story, and no step breaks the agreement: not the calls of
others, not a claim, and not the next call of an execution, whether it is served or refused.

## Main definitions

* `Worker.Books`: executions, ledger and rows agree
* `Worker.Around`: what the books say around one execution

## Main statements

* `Worker.Books.call`, `Books.claim`, `Books.handled`, `Books.react`: each kind of step keeps the
  books
* `Worker.Books.length_completed`, `Books.length_skipped`: how many executions ended so
-/

namespace WorkQueue.Worker

open Memory (Call Exchange Moves Reply Run State Step)

variable {policy : Backoff.Policy} {s s' : State} {x : Exchange} {id : Uuid} {worker : String}
  {e e' : Execution} {entries rest : List Entry} {ledger : List Served} {action : Action} {t : Task}

/-- Executions, ledger and rows agree. -/
structure Books (policy : Backoff.Policy) (entries : List Entry) (ledger : List Served)
    (s : State) : Prop where
  run : Run policy {} (ledger.map (·.exchange)) s
  held : ∀ x ∈ entries, Held s x.worker x.id x.execution
  /-- A task with a worker is in flight. -/
  active : ∀ id t, s.find? id = some t → t.status.isActive → id ∈ inFlight entries
  /-- Each completed task has been completed by one execution. -/
  completed : ∀ id t, s.find? id = some t → t.status = .completed → id ∈ ended .completed entries
  completed_nodup : (ended .completed entries).Nodup
  /-- Each failure that was stored ends one execution. -/
  failed : (ended .failed entries).length = (performed .fail ledger).length
  /-- A task is in flight once, and never again after an execution of it was skipped. -/
  nodup : (ended .skipped entries ++ inFlight entries).Nodup
  /-- A task was lost if its execution was skipped, or will be. -/
  lost : ∀ id, id ∈ lost ledger ↔
    id ∈ ended .skipped entries ∨ id ∈ inFlight entries ∧ s.Cancelled id
  lost_nodup : (Worker.lost ledger).Nodup

namespace Books

theorem keyed (books : Books policy entries ledger s) : s.Keyed :=
  books.run.keyed Memory.keyed_empty

theorem completed_of_ended (books : Books policy entries ledger s)
    (h : id ∈ ended .completed entries) : s.Completed id := by
  obtain ⟨x, hx, finished, rfl⟩ := mem_ended.1 h
  have held := books.held x hx
  rw [finished] at held
  cases held with
  | completed row => exact row

theorem cancelled_of_ended (books : Books policy entries ledger s)
    (h : id ∈ ended .skipped entries) : s.Cancelled id := by
  obtain ⟨x, hx, finished, rfl⟩ := mem_ended.1 h
  have held := books.held x hx
  rw [finished] at held
  cases held with
  | skipped row => exact row

theorem cancelled_of_lost (books : Books policy entries ledger s) (h : id ∈ Worker.lost ledger) :
    s.Cancelled id := by
  rcases (books.lost id).1 h with skipped | ⟨-, cancelled⟩
  · exact books.cancelled_of_ended skipped
  · exact cancelled

theorem row_of_inFlight (books : Books policy entries ledger s) (h : id ∈ inFlight entries) :
    ∃ t, s.find? id = some t ∧
      (t.status = .claimed ∨ t.status = .processing ∨ t.status = .cancelled) := by
  obtain ⟨x, hx, unfinished, rfl⟩ := mem_inFlight.1 h
  obtain ⟨t, found, -, status⟩ := (books.held x hx).row unfinished
  exact ⟨t, found, status⟩

/-- The order of the executions does not matter. -/
theorem perm {entries' : List Entry} (books : Books policy entries ledger s)
    (h : entries.Perm entries') : Books policy entries' ledger s := by
  have flight : (inFlight entries).Perm (inFlight entries') := (h.filter _).map _
  have ends : ∀ verdict, (ended verdict entries).Perm (ended verdict entries') :=
    fun verdict => (h.filter _).map _
  constructor
  · exact books.run
  · exact fun x hx => books.held x (h.mem_iff.2 hx)
  · exact fun id t found active => flight.mem_iff.1 (books.active id t found active)
  · exact fun id t found status => (ends _).mem_iff.1 (books.completed id t found status)
  · exact (ends _).nodup_iff.1 books.completed_nodup
  · rw [← (ends _).length_eq]
    exact books.failed
  · exact ((ends _).append flight).nodup_iff.1 books.nodup
  · intro id
    rw [books.lost, (ends _).mem_iff, flight.mem_iff]
  · exact books.lost_nodup

/-! ### Other callers -/

/-- Another caller is served. -/
theorem call (books : Books policy entries ledger s) (step : Step policy s x s')
    (external : x.call.External) :
    Books policy entries (ledger ++ [⟨x, inFlight entries⟩]) s' := by
  have hs := books.keyed
  have cancelled_iff : ∀ id ∈ inFlight entries,
      (s'.Cancelled id ↔ s.Cancelled id ∨ performed? .cancel x = some id) := by
    intro id hid
    by_cases h : performed? .cancel x = some id
    · obtain ⟨_, t, -, found', move⟩ := moves_of_performed step hs h
      exact iff_of_true ⟨t, found', move.status_eq⟩ (.inr h)
    · obtain ⟨t, found, -⟩ := books.row_of_inFlight hid
      have found' := find?_of_moves_eq_nil step hs found (moves_eq_nil_of_external external h)
      simp [State.Cancelled, found, found', h]
  have open_before : ∀ {id}, performed? .cancel x = some id → ¬ s.Cancelled id := by
    intro id h cancelled
    obtain ⟨old, _, found, -, move⟩ := moves_of_performed step hs h
    have status := State.status_of_find? cancelled found
    exact absurd (Task.isTerminal_of_status rfl status) (by simp [move.isTerminal_eq_false])
  constructor
  · rw [List.map_append]
    exact books.run.snoc step
  · intro y hy
    exact (books.held y hy).step step hs fun m hm => .inr (Memory.action_of_external external hm)
  · intro id t found active
    rcases step.row_of_external hs external found with before | pending | cancelled
    · exact books.active id t before active
    · simp [pending, Status.isActive] at active
    · simp [cancelled, Status.isActive] at active
  · intro id t found status
    rcases step.row_of_external hs external found with before | pending | cancelled
    · exact books.completed id t before status
    · simp [pending] at status
    · simp [cancelled] at status
  · exact books.completed_nodup
  · rw [performed_concat, performed?_fail_of_external external]
    simpa using books.failed
  · exact books.nodup
  · intro id
    have := cancelled_iff id
    rw [lost_concat, List.mem_append, books.lost, Option.mem_toList, Option.filter_eq_some_iff]
    simp only [decide_eq_true_eq]
    tauto
  · rw [lost_concat, List.nodup_append]
    refine ⟨books.lost_nodup, ?_, ?_⟩
    · cases (performed? .cancel x).filter (· ∈ inFlight entries) <;> simp
    · rintro id before _ now rfl
      rw [Option.mem_toList, Option.filter_eq_some_iff] at now
      exact open_before now.1 (books.cancelled_of_lost before)

/-! ### Claims -/

/-- A task that is claimed was neither in flight nor cancelled. -/
theorem fresh (books : Books policy entries ledger s) {limit : Nat} {now : Timestamp}
    {ts : List Task} (step : Step policy s ⟨.claim worker limit now, .tasks ts⟩ s')
    (h : id ∈ ts.map (·.id)) : id ∉ inFlight entries ∧ ¬ s.Cancelled id := by
  obtain ⟨t, ht, rfl⟩ := List.mem_map.1 h
  obtain ⟨old, found, free, -⟩ := step.taken books.keyed ht
  constructor
  · intro flies
    obtain ⟨row, found', busy⟩ := books.row_of_inFlight flies
    obtain rfl := Option.some.inj (found.symm.trans found')
    rcases free with free | free <;> simp [free] at busy
  · intro cancelled
    simp [State.status_of_find? cancelled found] at free

/-- A worker claims a batch. -/
theorem claim (books : Books policy entries ledger s) {limit : Nat} {now : Timestamp}
    {ts : List Task} (step : Step policy s ⟨.claim worker limit now, .tasks ts⟩ s') :
    Books policy (entries ++ claimedEntries worker ts)
      (ledger ++ [⟨⟨.claim worker limit now, .tasks ts⟩, inFlight entries⟩]) s' := by
  have hs := books.keyed
  have flight : inFlight (entries ++ claimedEntries worker ts) =
      inFlight entries ++ ts.map (·.id) := by
    rw [inFlight_append, inFlight_claimedEntries]
  have ends : ∀ verdict, ended verdict (entries ++ claimedEntries worker ts) =
      ended verdict entries := by
    intro verdict
    rw [ended_append, ended_claimedEntries, List.append_nil]
  constructor
  · rw [List.map_append]
    exact books.run.snoc step
  · intro y hy
    rcases List.mem_append.1 hy with hy | hy
    · exact (books.held y hy).step step hs fun m hm => .inl (Memory.mem_batch_of_moves hm).1
    · obtain ⟨t, ht, rfl⟩ := List.mem_map.1 hy
      obtain ⟨-, -, -, found', name, claimed⟩ := step.taken hs ht
      exact .claimed ⟨t, found', name, .inl claimed⟩
  · intro id t found active
    rw [flight, List.mem_append]
    rcases step.row_of_claim hs found with before | pending | ⟨inside, -⟩
    · exact .inl (books.active id t before active)
    · simp [pending, Status.isActive] at active
    · exact .inr inside
  · intro id t found status
    rw [ends]
    rcases step.row_of_claim hs found with before | pending | ⟨-, claimed⟩
    · exact books.completed id t before status
    · simp [pending] at status
    · simp [claimed] at status
  · rw [ends]
    exact books.completed_nodup
  · rw [ends, performed_concat]
    exact books.failed.trans (congrArg List.length (List.append_nil _).symm)
  · rw [ends, flight, ← List.append_assoc, List.nodup_append]
    refine ⟨books.nodup, step.nodup_batch hs, ?_⟩
    rintro id before _ inside rfl
    obtain ⟨landed, open_⟩ := books.fresh step inside
    rcases List.mem_append.1 before with skipped | flies
    · exact open_ (books.cancelled_of_ended skipped)
    · exact landed flies
  · intro id
    rw [lost_concat_of_none _ _ rfl, ends, flight, List.mem_append, books.lost]
    refine or_congr_right ⟨?_, ?_⟩
    · rintro ⟨flies, cancelled⟩
      exact ⟨.inl flies, step.status_of_terminal hs rfl cancelled⟩
    rintro ⟨flies | inside, t, found, cancelled⟩
    · rcases step.row_of_claim hs found with before | pending | ⟨-, claimed⟩
      · exact ⟨flies, t, before, cancelled⟩
      · simp [pending] at cancelled
      · simp [claimed] at cancelled
    · obtain ⟨row, hrow, rfl⟩ := List.mem_map.1 inside
      obtain ⟨-, -, -, found', -, claimed⟩ := step.taken hs hrow
      obtain rfl := Option.some.inj (found.symm.trans found')
      simp [claimed] at cancelled
  · rw [lost_concat_of_none _ _ rfl]
    exact books.lost_nodup

/-! ### Executions -/

/-- The end of a handler changes nothing that the books speak of. -/
theorem handled (books : Books policy (⟨worker, id, .started id t⟩ :: rest) ledger s)
    (result : Outcome Unit) :
    Books policy (⟨worker, id, .handled id result⟩ :: rest) ledger s := by
  have held := books.held _ List.mem_cons_self
  have started : 0 < (Execution.started id t).remaining := Nat.succ_pos 1
  have handled : 0 < (Execution.handled id result).remaining := Nat.succ_pos 0
  have flight : inFlight (⟨worker, id, .handled id result⟩ :: rest) =
      inFlight (⟨worker, id, .started id t⟩ :: rest) := by
    rw [inFlight_cons_of_unfinished started, inFlight_cons_of_unfinished handled]
  have ends : ∀ verdict, ended verdict (⟨worker, id, .handled id result⟩ :: rest) =
      ended verdict (⟨worker, id, .started id t⟩ :: rest) := fun verdict => rfl
  constructor
  · exact books.run
  · intro y hy
    rcases List.mem_cons.1 hy with rfl | hy
    · cases held with
      | started row => exact .handled row
    · exact books.held y (List.mem_cons_of_mem _ hy)
  · rw [flight]
    exact books.active
  · rw [ends]
    exact books.completed
  · rw [ends]
    exact books.completed_nodup
  · rw [ends]
    exact books.failed
  · rw [ends, flight]
    exact books.nodup
  · rw [ends, flight]
    exact books.lost
  · exact books.lost_nodup

/-! ### Around one execution -/

end Books

/-- What the books say around an execution that has not ended. -/
structure Around (s : State) (id : Uuid) (rest : List Entry) (ledger : List Served) : Prop where
  held : ∀ x ∈ rest, Held s x.worker x.id x.execution
  active : ∀ other t, s.find? other = some t → t.status.isActive →
    other = id ∨ other ∈ inFlight rest
  completed : ∀ other t, s.find? other = some t → t.status = .completed →
    other ∈ ended .completed rest
  completed_nodup : (ended .completed rest).Nodup
  failed : (ended .failed rest).length = (performed .fail ledger).length
  nodup : (ended .skipped rest ++ id :: inFlight rest).Nodup
  lost : ∀ other, other ∈ lost ledger ↔
    other ∈ ended .skipped rest ∨ (other = id ∨ other ∈ inFlight rest) ∧ s.Cancelled other
  lost_nodup : (Worker.lost ledger).Nodup

namespace Books

theorem around (books : Books policy (⟨worker, id, e⟩ :: rest) ledger s)
    (unfinished : 0 < e.remaining) : Around s id rest ledger := by
  have flight : inFlight (⟨worker, id, e⟩ :: rest) = id :: inFlight rest :=
    inFlight_cons_of_unfinished unfinished
  have ends : ∀ verdict, ended verdict (⟨worker, id, e⟩ :: rest) = ended verdict rest :=
    fun verdict => ended_cons_of_ne (verdict?_of_unfinished unfinished verdict)
  obtain ⟨-, held, active, completed, completed_nodup, failed, nodup, lost, lost_nodup⟩ := books
  simp only [flight, ends, List.mem_cons] at active completed completed_nodup failed nodup lost
  exact ⟨fun y hy => held y (List.mem_cons_of_mem _ hy), active, completed, completed_nodup, failed,
    nodup, lost, lost_nodup⟩

/-- The execution of a cancelled task is skipped. -/
theorem refused (books : Books policy (⟨worker, id, e⟩ :: rest) ledger s)
    (unfinished : 0 < e.remaining) (cancelled : s.Cancelled id) {call : Call} {failure : Failure}
    (step : Step policy s ⟨call, .refused failure⟩ s) (ids : List Uuid) :
    Books policy (⟨worker, id, .finished .skipped⟩ :: rest)
      (ledger ++ [⟨⟨call, .refused failure⟩, ids⟩]) s := by
  have around := books.around unfinished
  have flight : inFlight (⟨worker, id, .finished .skipped⟩ :: rest) = inFlight rest :=
    inFlight_cons_of_finished rfl
  have nothing : ∀ action, performed? action ⟨call, .refused failure⟩ = none :=
    fun action => performed?_refused action call failure
  constructor
  · rw [List.map_append]
    exact books.run.snoc step
  · intro y hy
    rcases List.mem_cons.1 hy with rfl | hy
    · exact .skipped cancelled
    · exact around.held y hy
  · intro other t found active
    rw [flight]
    rcases around.active other t found active with rfl | flies
    · simp [State.status_of_find? cancelled found, Status.isActive] at active
    · exact flies
  · rw [ended_cons_of_ne (by decide)]
    exact around.completed
  · rw [ended_cons_of_ne (by decide)]
    exact around.completed_nodup
  · rw [performed_concat, nothing, ended_cons_of_ne (by decide)]
    simpa using around.failed
  · rw [flight, ended_cons_self]
    exact (List.perm_middle.nodup_iff).1 around.nodup
  · intro other
    rw [lost_concat_of_none _ _ (nothing _), ended_cons_self, flight, around.lost, List.mem_cons]
    constructor
    · rintro (skipped | ⟨rfl | flies, cancelled⟩)
      · exact .inl (.inr skipped)
      · exact .inl (.inl rfl)
      · exact .inr ⟨flies, cancelled⟩
    · rintro ((rfl | skipped) | ⟨flies, cancelled⟩)
      · exact .inr ⟨.inl rfl, cancelled⟩
      · exact .inl skipped
      · exact .inr ⟨.inr flies, cancelled⟩
  · rw [lost_concat_of_none _ _ (nothing _)]
    exact around.lost_nodup

end Books

/-! ### A new row around one execution -/

namespace Around

variable {t' row : Task} {other : Uuid}

/-- A new row of an active task leaves the other executions where they are. -/
theorem held_put (around : Around s id rest ledger) (same : t'.id = id)
    (found : s.find? id = some t) (active : t.status.isActive) :
    ∀ y ∈ rest, Held (s.put t') y.worker y.id y.execution := by
  intro y hy
  have held := around.held y hy
  by_cases ne : y.id = id
  · -- an earlier execution of the same task, which can only have failed
    have ended_ : ¬ 0 < y.execution.remaining := by
      intro unfinished
      have twice := (List.nodup_append.1 around.nodup).2.1
      exact (List.nodup_cons.1 twice).1 (mem_inFlight.2 ⟨y, hy, unfinished, ne⟩)
    rw [ne] at held ⊢
    generalize y.execution = e at held ended_
    cases held with
    | claimed | started | handled => exact absurd (Nat.succ_pos _) ended_
    | failed => exact .failed
    | completed row | skipped row =>
      simp [State.status_of_find? row found, Status.isActive] at active
  · exact held.of_find?_eq (State.find?_put_of_ne (same ▸ ne))

theorem active_put (around : Around s id rest ledger) (same : t'.id = id) (ne : other ≠ id)
    (found : (s.put t').find? other = some row) (active : row.status.isActive) :
    other ∈ inFlight rest := by
  rw [State.find?_put_of_ne (same ▸ ne)] at found
  exact (around.active other row found active).resolve_left ne

theorem completed_put (around : Around s id rest ledger) (same : t'.id = id) (ne : other ≠ id)
    (found : (s.put t').find? other = some row) (status : row.status = .completed) :
    other ∈ ended .completed rest := by
  rw [State.find?_put_of_ne (same ▸ ne)] at found
  exact around.completed other row found status

/-- A task that is active now has not been completed before. -/
theorem notMem_completed (around : Around s id rest ledger) (found : s.find? id = some t)
    (active : t.status.isActive) : id ∉ ended .completed rest := by
  intro again
  obtain ⟨y, hy, finished, rfl⟩ := mem_ended.1 again
  have held := around.held y hy
  rw [finished] at held
  cases held with
  | completed row => simp [State.status_of_find? row found, Status.isActive] at active

/-- As long as its task is not cancelled, nothing is lost with an execution, whether it stays in
flight or not. -/
theorem lost_put (around : Around s id rest ledger) (same : t'.id = id)
    (found : s.find? id = some t) (old : t.status ≠ .cancelled) (new : t'.status ≠ .cancelled)
    {flight : List Uuid} (others : ∀ other, other ≠ id → (other ∈ flight ↔ other ∈ inFlight rest))
    (other : Uuid) : other ∈ Worker.lost ledger ↔
      other ∈ ended .skipped rest ∨ other ∈ flight ∧ (s.put t').Cancelled other := by
  subst same
  rw [around.lost]
  by_cases ne : other = t'.id
  · subst ne
    have found' : (s.put t').find? t'.id = some t' := State.find?_put_self found
    simp [State.Cancelled, found, found', old, new]
  · have row : (s.put t').Cancelled other ↔ s.Cancelled other := by
      unfold State.Cancelled
      rw [State.find?_put_of_ne ne]
    rw [row, others other ne]
    simp [ne]

end Around

namespace Books

/-- The transition that an execution asked for has been stored. -/
theorem moved (books : Books policy (⟨worker, id, e⟩ :: rest) ledger s)
    (unfinished : 0 < e.remaining) {call : Call} {t t' : Task}
    (subject : call.subject? = some (id, action)) (own : action ≠ .claim ∧ action ≠ .cancel)
    (found : s.find? id = some t) (active : t.status.isActive) (move : Moves policy s t action t')
    (held : Held (s.put t') worker id (Execution.after t' action))
    (step : Step policy s ⟨call, .task t'⟩ (s.put t')) (ids : List Uuid) :
    Books policy (⟨worker, id, Execution.after t' action⟩ :: rest)
      (ledger ++ [⟨⟨call, .task t'⟩, ids⟩]) (s.put t') := by
  have around := books.around unfinished
  have same : t'.id = id := move.id_eq.trans (State.id_of_find? found)
  have found' : (s.put t').find? id = some t' := by
    subst same
    exact State.find?_put_self found
  have actions : action = .start ∨ action = .complete ∨ action = .fail := by
    cases action <;> simp at own ⊢
  have unlost : performed? .cancel ⟨call, .task t'⟩ = none := by
    rw [performed?_task subject, if_neg own.2]
  -- the execution is still in flight if it was started; it is not skipped
  have flight : inFlight (⟨worker, id, Execution.after t' action⟩ :: rest) =
      if action = .start then id :: inFlight rest else inFlight rest := by
    rcases actions with rfl | rfl | rfl
    · exact inFlight_cons_of_unfinished (Nat.succ_pos 1)
    · exact inFlight_cons_of_finished rfl
    · exact inFlight_cons_of_finished rfl
  have skips : ended .skipped (⟨worker, id, Execution.after t' action⟩ :: rest) =
      ended .skipped rest := by
    refine ended_cons_of_ne ?_
    rcases actions with rfl | rfl | rfl <;> simp [Execution.after, Execution.verdict?]
  constructor
  · rw [List.map_append]
    exact books.run.snoc step
  · intro y hy
    rcases List.mem_cons.1 hy with rfl | hy
    · exact held
    · exact around.held_put same found active y hy
  · intro other row found'' active'
    rw [flight]
    by_cases ne : other = id
    · subst ne
      obtain rfl := Option.some.inj (found'.symm.trans found'')
      rw [move.status_eq] at active'
      rcases actions with rfl | rfl | rfl
      · exact List.mem_cons_self
      · cases active'
      · cases active'
    · have flies := around.active_put same ne found'' active'
      split
      · exact List.mem_cons_of_mem _ flies
      · exact flies
  · intro other row found'' status
    by_cases ne : other = id
    · subst ne
      obtain rfl := Option.some.inj (found'.symm.trans found'')
      rw [move.status_eq] at status
      rcases actions with rfl | rfl | rfl
      · cases status
      · exact mem_ended.2 ⟨_, List.mem_cons_self, rfl, rfl⟩
      · cases status
    · obtain ⟨y, hy, rest_⟩ := mem_ended.1 (around.completed_put same ne found'' status)
      exact mem_ended.2 ⟨y, List.mem_cons_of_mem _ hy, rest_⟩
  · rcases actions with rfl | rfl | rfl
    · exact around.completed_nodup
    · rw [Execution.after, ended_cons_self]
      exact List.nodup_cons.2 ⟨around.notMem_completed found active, around.completed_nodup⟩
    · exact around.completed_nodup
  · rw [performed_concat, performed?_task subject]
    have failed := around.failed
    rcases actions with rfl | rfl | rfl
    · rw [ended_cons_of_ne (by simp [Execution.after, Execution.verdict?])]
      simpa using failed
    · rw [ended_cons_of_ne (by simp [Execution.after, Execution.verdict?])]
      simpa using failed
    · rw [Execution.after, ended_cons_self]
      simpa using failed
  · rw [skips, flight]
    split
    · exact around.nodup
    · exact around.nodup.sublist ((List.sublist_cons_self _ _).append_left _)
  · rw [lost_concat_of_none _ _ unlost, skips, flight]
    refine around.lost_put same found ?_ ?_ fun other ne => ?_
    · intro status
      simp [status, Status.isActive] at active
    · rw [move.status_eq]
      rcases actions with rfl | rfl | rfl <;> decide
    · split <;> simp [ne]
  · rw [lost_concat_of_none _ _ unlost]
    exact around.lost_nodup

/-- The next call of an execution is served. -/
theorem react (books : Books policy (⟨worker, id, e⟩ :: rest) ledger s)
    (unfinished : 0 < e.remaining) {call : Call} {reply : Reply}
    (reaction : Reaction policy s worker id call reply e' s')
    (step : Step policy s ⟨call, reply⟩ s') (ids : List Uuid) :
    Books policy (⟨worker, id, e'⟩ :: rest) (ledger ++ [⟨⟨call, reply⟩, ids⟩]) s' := by
  cases reaction with
  | refused cancelled => exact books.refused unfinished cancelled step ids
  | moved subject own found active move held =>
    exact books.moved unfinished subject own found active move held step ids

/-! ### Totals -/

/-- The executions that completed a task and the completed rows have the same identifiers. -/
theorem length_completed (books : Books policy entries ledger s) :
    (ended .completed entries).length =
      (s.tasks.filter fun t => t.status = .completed).length := by
  have rows_nodup : ((s.tasks.filter fun t => t.status = .completed).map (·.id)).Nodup :=
    books.keyed.sublist (List.filter_sublist.map _)
  have same : ∀ id, id ∈ ended .completed entries ↔
      id ∈ (s.tasks.filter fun t => t.status = .completed).map (·.id) := by
    intro id
    constructor
    · intro done
      obtain ⟨t, found, status⟩ := books.completed_of_ended done
      obtain ⟨ht, rfl⟩ := (State.find?_eq_some_iff books.keyed).1 found
      exact List.mem_map_of_mem (List.mem_filter.2 ⟨ht, by simpa using status⟩)
    · intro row
      obtain ⟨t, ht, rfl⟩ := List.mem_map.1 row
      obtain ⟨ht, status⟩ := List.mem_filter.1 ht
      have found := (State.find?_eq_some_iff books.keyed).2 ⟨ht, rfl⟩
      exact books.completed t.id t found (by simpa using status)
  have perm := (List.perm_ext_iff_of_nodup books.completed_nodup rows_nodup).2 same
  exact perm.length_eq.trans (List.length_map _)

/-- Once nothing is in flight, the lost tasks are those whose execution was skipped. -/
theorem length_skipped (books : Books policy entries ledger s) (landed : inFlight entries = []) :
    (ended .skipped entries).length = (Worker.lost ledger).length := by
  have same : ∀ id, id ∈ ended .skipped entries ↔ id ∈ Worker.lost ledger := by
    intro id
    rw [books.lost, landed]
    simp
  have nodup := (List.nodup_append.1 books.nodup).1
  exact ((List.perm_ext_iff_of_nodup nodup books.lost_nodup).2 same).length_eq

theorem not_isActive (books : Books policy entries ledger s) (landed : inFlight entries = [])
    (ht : t ∈ s.tasks) : ¬ t.status.isActive := by
  intro active
  have found := (State.find?_eq_some_iff books.keyed).2 ⟨ht, rfl⟩
  have flies := books.active t.id t found active
  rw [landed] at flies
  exact absurd flies List.not_mem_nil

end Books

end WorkQueue.Worker
