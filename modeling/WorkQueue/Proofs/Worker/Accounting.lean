import WorkQueue.Proofs.Worker.Books
import Mathlib.Algebra.GroupWithZero.Nat

/-!
# Ownership and accounting

However many workers share a storage and however their steps are interleaved with those of other
callers, each task in flight belongs to one batch, and when no batch is in progress the returned
counts are those of the rows and of the calls that were made.

## Main definitions

* `Worker.Crew.Sound`: the books of a crew
* `Worker.Crew.Owned`, `Worker.Crew.Balanced`: who holds which task, and what the counts add up to

## Main statements

* `Worker.Crew.Sound.step`, `Worker.Crew.Reachable.sound`: steps keep the books
* `Worker.sum_counts`: returned counts are counts of executions
* `Worker.owned_and_balanced`: ownership at every moment, and balanced counts between batches
-/

namespace WorkQueue.Worker

open Simulation
open Memory (Call Step)

variable {policy : Backoff.Policy} {id : Uuid} {worker : String} {e : Execution}
  {rest : List Entry} {ledger : List Served} {c c' : Crew} {batch : Batch}

/-! ### Crews -/

/-- The executions of several batches. -/
def entriesOf (as : List Assignment) : List Entry := as.flatMap (·.entries)

/-- The books of a crew cover its batches, those included that have ended. -/
structure Crew.Sound (policy : Backoff.Policy) (c : Crew) : Prop where
  books : Books policy (entriesOf c.returned ++ c.entries) c.ledger c.world.memory.state
  finished : ∀ a ∈ c.returned, a.batch.Finished

theorem inFlight_of_finished {as : List Assignment} (finished : ∀ a ∈ as, a.batch.Finished) :
    inFlight (entriesOf as) = [] := by
  rw [List.eq_nil_iff_forall_not_mem]
  intro id h
  obtain ⟨x, hx, unfinished, -⟩ := mem_inFlight.1 h
  obtain ⟨a, ha, hx⟩ := List.mem_flatMap.1 hx
  obtain ⟨y, hy, rfl⟩ := List.mem_map.1 hx
  have finished_ : y.2.remaining = 0 := finished a ha y hy
  exact absurd unfinished (by simp [finished_])

theorem Crew.Sound.inFlight_eq (sound : c.Sound policy) :
    Worker.inFlight (entriesOf c.returned ++ c.entries) = c.inFlight := by
  rw [inFlight_append, inFlight_of_finished sound.finished, List.nil_append]
  rfl

/-- One execution of some batch, before all others. -/
theorem perm_entriesOf (past : List Entry) (before after : List Assignment) (worker : String)
    (b₁ b₂ : Batch) (id : Uuid) (e : Execution) :
    (past ++ entriesOf (before ++ ⟨worker, b₁ ++ (id, e) :: b₂⟩ :: after)).Perm
      (⟨worker, id, e⟩ :: (past ++ entriesOf (before ++ ⟨worker, b₁ ++ b₂⟩ :: after))) := by
  have split : ∀ b : Batch, past ++ entriesOf (before ++ ⟨worker, b⟩ :: after) =
      past ++ entriesOf before ++ Assignment.entries ⟨worker, b⟩ ++ entriesOf after := by
    intro b
    simp [entriesOf]
  have middle (x : Entry) (others : List Entry) :
      (past ++ entriesOf before ++ Assignment.entries ⟨worker, b₁⟩ ++ x :: others).Perm
        (x :: (past ++ entriesOf before ++ Assignment.entries ⟨worker, b₁⟩ ++ others)) :=
    List.perm_middle
  rw [split, split]
  simpa [Assignment.entries, List.append_assoc] using
    middle ⟨worker, id, e⟩ (Assignment.entries ⟨worker, b₂⟩ ++ entriesOf after)

/-- The calls of executions can always be made. -/
theorem admissible_of_called {now : Timestamp} {call : Call} (called : e.call? now = some call)
    (s : Memory.State) : call.Admissible s := by
  cases e with
  | claimed => obtain rfl := Option.some.inj called; trivial
  | handled id result => cases result <;> obtain rfl := Option.some.inj called <;> trivial
  | started | finished => cases called

/-- A step of an execution keeps the books. -/
theorem Books.advance {P : Type} {agent : Agent P} (policy_eq : agent.policy = policy)
    (keeps : agent.KeepsRows) {w : World} (unfinished : 0 < e.remaining)
    (books : Books policy (⟨worker, id, e⟩ :: rest) ledger w.memory.state) (ids : List Uuid) :
    Books policy (⟨worker, id, ((agent.step e).run w).1⟩ :: rest)
      ((Turn.exchange? policy ⟨w, e⟩).elim ledger fun x => ledger ++ [⟨x, ids⟩])
      ((agent.step e).run w).2.memory.state := by
  subst policy_eq
  cases called : e.call? w.clock with
  | some call =>
    obtain ⟨resumes, rows⟩ := step_of_call agent called
    have held : Held w.memory.state worker id e := books.held _ List.mem_cons_self
    have reaction := held.react called ⟨_, books.run⟩
    have step : Step agent.policy w.memory.state _ _ := .of_serve rfl (admissible_of_called called _)
    rw [resumes, rows, Turn.exchange?, called]
    exact books.react unfinished reaction step ids
  | none =>
    cases e with
    | started id' t =>
      have held : Held w.memory.state worker id (.started id' t) := books.held _ List.mem_cons_self
      obtain rfl : id' = id := by
        cases held
        rfl
      obtain ⟨result, resumes, rows⟩ := step_of_started keeps id' t w
      rw [resumes, rows]
      exact books.handled result
    | claimed => cases called
    | handled id result => cases result <;> cases called
    | finished => exact absurd unfinished (Nat.lt_irrefl 0)

/-- A claim in a world is a step on its rows. -/
theorem step_of_run_claim {P : Type} {agent : Agent P} {w w' : World} {order tasks : List Task}
    {now : Timestamp} (perm : order.Perm w.memory.state.tasks)
    (claimed : (agent.storage.claim agent.worker agent.config.batchSize).run (w.seen now order) =
      (.ok tasks, w')) :
    Step policy w.memory.state ⟨.claim agent.worker agent.config.batchSize now, .tasks tasks⟩
      w'.memory.state := by
  obtain ⟨w₁, claimed', rows⟩ :=
    run_claim_seen agent agent.worker agent.config.batchSize w now order
  obtain ⟨tasks_eq, rfl⟩ := Prod.mk.inj (claimed.symm.trans claimed')
  obtain rfl := Except.ok.inj tasks_eq
  rw [rows]
  exact .serve perm trivial

theorem Crew.Sound.step (sound : c.Sound policy) (step : Crew.Step policy c c') :
    c'.Sound policy := by
  have books := sound.books
  cases step with
  | call step external =>
    refine ⟨?_, sound.finished⟩
    have noted := books.call step external
    rwa [sound.inFlight_eq] at noted
  | @claim P agent policy_eq order now tasks w perm claimed =>
    refine ⟨?_, sound.finished⟩
    have taken : Memory.Step policy c.world.memory.state _ _ := step_of_run_claim perm claimed
    have noted := books.claim taken
    rw [sound.inFlight_eq, List.append_assoc] at noted
    have more : Crew.entries { c with
        assignments := c.assignments ++ [⟨agent.worker, batchOf tasks⟩] } =
        c.entries ++ claimedEntries agent.worker tasks := by
      simp [Crew.entries, Assignment.entries, batchOf, claimedEntries, Function.comp_def]
    exact more ▸ noted
  | @advance P agent policy_eq keeps before after batch batch' turn w here next =>
    refine ⟨?_, sound.finished⟩
    obtain @⟨b₁, b₂, id, e, now, -, unfinished⟩ := next
    have opened := books.perm (here ▸ perm_entriesOf _ _ _ _ _ _ _ _)
    have advanced := opened.advance (w := c.world.withClock now) policy_eq keeps unfinished
      c.inFlight
    exact advanced.perm (perm_entriesOf _ _ _ _ _ _ _ _).symm
  | @finish before after a here finished =>
    constructor
    · have moved : (entriesOf c.returned ++ entriesOf (before ++ a :: after)).Perm
          (entriesOf (c.returned ++ [a]) ++ entriesOf (before ++ after)) := by
        simp only [entriesOf, List.flatMap_append, List.flatMap_cons, List.flatMap_nil,
          List.append_nil, List.append_assoc]
        refine List.Perm.append_left _ ?_
        rw [← List.append_assoc, ← List.append_assoc]
        exact List.perm_append_comm.append_right _
      have opened : c.entries = entriesOf (before ++ a :: after) := by
        rw [Crew.entries, here]
        rfl
      rw [← opened] at moved
      exact books.perm moved
    · intro a' ha'
      rcases List.mem_append.1 ha' with old | new
      · exact sound.finished a' old
      · obtain rfl := List.mem_singleton.1 new
        exact finished
  | idle kept =>
    refine ⟨?_, sound.finished⟩
    rwa [kept]

theorem Crew.Reachable.sound (reachable : c.Reachable policy) : c.Sound policy := by
  obtain ⟨w, empty, steps⟩ := reachable
  induction steps with
  | refl =>
    refine ⟨?_, fun a ha => absurd ha List.not_mem_nil⟩
    have nothing : ∀ (id : Uuid) (t : Task), w.memory.state.find? id ≠ some t := by
      intro id t found
      rw [empty] at found
      cases found
    constructor
    · exact empty ▸ .nil
    · exact fun x hx => absurd hx List.not_mem_nil
    · exact fun id t found => absurd found (nothing id t)
    · exact fun id t found => absurd found (nothing id t)
    · exact List.nodup_nil
    · rfl
    · exact List.nodup_nil
    · intro id
      simp [lost, entriesOf, Crew.entries, ended, Worker.inFlight]
    · exact List.nodup_nil
  | tail _ step ih => exact ih.step step

/-! ### Counts -/

/-- The count of a verdict. -/
def Tally.count (tally : Tally) : Verdict → Nat
  | .completed => tally.completed
  | .failed => tally.failed
  | .skipped => tally.skipped

theorem Tally.count_add (tally : Tally) (added verdict : Verdict) :
    (tally.add added).count verdict = tally.count verdict + if added = verdict then 1 else 0 := by
  cases added <;> cases verdict <;> rfl

/-- A batch counts its executions by verdict. -/
theorem count_countInto (worker : String) (batch : Batch) (tally : Tally) (verdict : Verdict) :
    (batch.countInto tally).count verdict =
      tally.count verdict + (ended verdict (Assignment.entries ⟨worker, batch⟩)).length := by
  induction batch generalizing tally with
  | nil => rfl
  | cons x rest ih =>
    obtain ⟨id, e⟩ := x
    have split : Assignment.entries ⟨worker, (id, e) :: rest⟩ =
        ⟨worker, id, e⟩ :: Assignment.entries ⟨worker, rest⟩ := rfl
    rw [split]
    cases e with
    | finished added =>
      rw [Batch.countInto, ih, Tally.count_add]
      by_cases h : added = verdict
      · subst h
        rw [ended_cons_self, if_pos rfl, List.length_cons]
        omega
      · rw [ended_cons_of_ne (by simpa [Execution.verdict?] using h), if_neg h]
        rfl
    | claimed | started | handled =>
      rw [Batch.countInto, ih, ended_cons_of_ne (by simp [Execution.verdict?])]
      simp

theorem claimed_countInto (batch : Batch) (tally : Tally) :
    (batch.countInto tally).claimed = tally.claimed := by
  induction batch generalizing tally with
  | nil => rfl
  | cons x rest ih =>
    obtain ⟨id, e⟩ := x
    cases e with
    | finished added =>
      rw [Batch.countInto, ih]
      cases added <;> rfl
    | claimed | started | handled => exact ih tally

theorem length_of_finished (worker : String) (finished : batch.Finished) : batch.length =
    (ended .completed (Assignment.entries ⟨worker, batch⟩)).length +
      (ended .failed (Assignment.entries ⟨worker, batch⟩)).length +
      (ended .skipped (Assignment.entries ⟨worker, batch⟩)).length := by
  induction batch with
  | nil => rfl
  | cons x rest ih =>
    obtain ⟨id, e⟩ := x
    have split : Assignment.entries ⟨worker, (id, e) :: rest⟩ =
        ⟨worker, id, e⟩ :: Assignment.entries ⟨worker, rest⟩ := rfl
    have count := ih fun y hy => finished y (List.mem_cons_of_mem _ hy)
    have finished_ : e.remaining = 0 := finished (id, e) List.mem_cons_self
    rw [split, List.length_cons]
    cases e with
    | finished verdict =>
      have others : ∀ other, verdict ≠ other →
          ended other (⟨worker, id, .finished verdict⟩ :: Assignment.entries ⟨worker, rest⟩) =
            ended other (Assignment.entries ⟨worker, rest⟩) :=
        fun other ne => ended_cons_of_ne (by simpa [Execution.verdict?] using ne)
      cases verdict with
      | completed =>
        rw [ended_cons_self, others .failed (by decide), others .skipped (by decide),
          List.length_cons]
        omega
      | failed =>
        rw [ended_cons_self, others .completed (by decide), others .skipped (by decide),
          List.length_cons]
        omega
      | skipped =>
        rw [ended_cons_self, others .completed (by decide), others .failed (by decide),
          List.length_cons]
        omega
    | claimed | started | handled => cases finished_

theorem count_tally (a : Assignment) (verdict : Verdict) :
    a.batch.tally.count verdict = (ended verdict a.entries).length := by
  rw [Batch.tally, count_countInto a.worker]
  cases verdict <;> exact Nat.zero_add _

/-- Each claimed task of a finished batch is counted under its verdict. -/
theorem claimed_tally (a : Assignment) (finished : a.batch.Finished) :
    a.batch.tally.claimed = a.batch.tally.completed + a.batch.tally.failed +
      a.batch.tally.skipped := by
  have claimed : a.batch.tally.claimed = a.batch.length := claimed_countInto _ _
  have count := count_tally a
  rw [claimed, length_of_finished a.worker finished]
  exact congrArg₂ _ (congrArg₂ _ (count .completed).symm (count .failed).symm)
    (count .skipped).symm

/-- The returned counts of a verdict add up to the executions that ended with it. -/
theorem sum_counts (as : List Assignment) (verdict : Verdict) :
    ((as.map (·.batch.tally)).map (·.count verdict)).sum =
      (ended verdict (entriesOf as)).length := by
  induction as with
  | nil => rfl
  | cons a as ih =>
    have split : entriesOf (a :: as) = a.entries ++ entriesOf as := List.flatMap_cons
    rw [split, ended_append, List.length_append, List.map_cons, List.map_cons, List.sum_cons, ih,
      count_tally]

/-! ### Ownership and balance -/

/-- Who holds which task. -/
structure Crew.Owned (c : Crew) : Prop where
  /-- A task is in flight in one batch, and there once. -/
  exclusive : c.inFlight.Nodup
  /-- Its row names the worker of that batch. -/
  row : ∀ a ∈ c.assignments, ∀ x ∈ a.batch, 0 < x.2.remaining →
    ∃ t, c.world.memory.state.find? x.1 = some t ∧ t.claimedBy = some a.worker ∧
      (t.status = .claimed ∨ t.status = .processing ∨ t.status = .cancelled)

/-- What the returned counts add up to. -/
structure Crew.Balanced (c : Crew) : Prop where
  idle : ∀ t ∈ c.world.memory.state.tasks, t.status ≠ .claimed ∧ t.status ≠ .processing
  completed : (c.tallies.map (·.completed)).sum =
    (c.world.memory.state.tasks.filter fun t => t.status = .completed).length
  failed : (c.tallies.map (·.failed)).sum = (performed .fail c.ledger).length
  /-- No task is lost twice, so this is a number of tasks. -/
  skipped : (lost c.ledger).Nodup ∧ (c.tallies.map (·.skipped)).sum = (lost c.ledger).length
  claimed : ∀ tally ∈ c.tallies, tally.claimed = tally.completed + tally.failed + tally.skipped

theorem Crew.Sound.owned (sound : c.Sound policy) : c.Owned where
  exclusive := by
    have nodup := (List.nodup_append.1 sound.books.nodup).2.1
    rwa [sound.inFlight_eq] at nodup
  row a ha x hx unfinished := by
    have inside : (⟨a.worker, x.1, x.2⟩ : Entry) ∈ c.entries :=
      List.mem_flatMap.2 ⟨a, ha, List.mem_map_of_mem hx⟩
    exact (sound.books.held _ (List.mem_append_right _ inside)).row unfinished

theorem Crew.Sound.balanced (sound : c.Sound policy) (settled : c.assignments = []) :
    c.Balanced := by
  have books := sound.books
  have none : c.entries = [] := by
    rw [Crew.entries, settled]
    rfl
  have landed : Worker.inFlight (entriesOf c.returned ++ c.entries) = [] := by
    rw [none, List.append_nil, inFlight_of_finished sound.finished]
  have counts : ∀ verdict, (c.tallies.map (·.count verdict)).sum =
      (ended verdict (entriesOf c.returned ++ c.entries)).length := by
    intro verdict
    rw [none, List.append_nil]
    exact sum_counts c.returned verdict
  constructor
  · intro t ht
    have inactive := books.not_isActive landed ht
    constructor
    · intro claimed
      exact inactive (by rw [claimed]; rfl)
    · intro processing
      exact inactive (by rw [processing]; rfl)
  · exact (counts .completed).trans books.length_completed
  · exact (counts .failed).trans books.failed
  · exact ⟨books.lost_nodup, (counts .skipped).trans (books.length_skipped landed)⟩
  · intro tally htally
    obtain ⟨a, ha, rfl⟩ := List.mem_map.1 htally
    exact claimed_tally a (sound.finished a ha)

/-- However the steps of any number of workers and other callers are interleaved, each task in
flight belongs to one batch of the worker that its row names, and whenever no batch is in progress
the counts that were returned are those of the rows and of the calls. -/
theorem owned_and_balanced (reachable : c.Reachable policy) :
    c.Owned ∧ (c.assignments = [] → c.Balanced) :=
  ⟨reachable.sound.owned, reachable.sound.balanced⟩

/-- A worker whose only handler always ends in the same way. -/
def clerk (worker : String) (result : HandlerResult) : Agent Unit where
  policy := {}
  worker := worker
  config := {}
  processors := ⟨[("mail", ())]⟩
  process _ _ := return result

/-- A world with an empty storage. -/
def emptyWorld : World where
  storage := .memory
  policy := {}
  clock := .epoch

/-- A worker completes a first task. It claims a second one, which is cancelled in flight while
another worker, whose handler breaks off, fails a third one. -/
theorem owned_and_balanced_of_two_workers : ∃ c : Crew, c.Reachable {} ∧ c.assignments = [] ∧
    c.tallies = [⟨1, 1, 0, 0⟩, ⟨1, 0, 1, 0⟩, ⟨1, 0, 0, 1⟩] ∧
    c.world.memory.state.tasks.map (·.status) = [.completed, .cancelled, .failed] ∧
    c.Owned ∧ (c.assignments = [] → c.Balanced) := by
  obtain ⟨ledger, posted⟩ := @Crew.steps_of_replay {} { world := emptyWorld }
    [.upsertType ⟨"mail", 2, 0, none⟩ .epoch,
      .enqueue { taskType := "mail", payload := .null } ⟨1⟩ .epoch]
    (by simp [Call.External]) (by decide +kernel)
  obtain ⟨x, ledger, -, counted, first⟩ := (Crew.steps_of_runOnce _ (clerk "a" .succeeded)
    rfl (fun _ _ _ => rfl) (fun _ _ _ => rfl)).imp
    fun _ => Exists.imp fun _ next => And.imp_right (And.imp_right posted.trans) next
  obtain ⟨ledger, second⟩ := (Crew.steps_of_replay _
    [.enqueue { taskType := "mail", payload := .null } ⟨2⟩ .epoch]
    (by simp [Call.External]) (by dsimp only; decide +kernel)).imp fun _ next => first.trans next
  obtain ⟨ledger, third⟩ := (Crew.steps_of_claim _ (clerk "a" .succeeded) rfl).imp
    fun _ next => second.trans next
  obtain ⟨ledger, fourth⟩ := (Crew.steps_of_replay _
    [.cancel ⟨2⟩ .epoch, .enqueue { taskType := "mail", payload := .null } ⟨3⟩ .epoch]
    (by simp [Call.External]) (by dsimp only; decide +kernel)).imp fun _ next => third.trans next
  obtain ⟨y, ledger, -, counted', fifth⟩ := (Crew.steps_of_runOnce _
    (clerk "b" (.brokeOff (some "boom"))) rfl (fun _ _ _ => rfl) (fun _ _ _ => rfl)).imp
    fun _ => Exists.imp fun _ next => And.imp_right (And.imp_right fourth.trans) next
  obtain ⟨z, ledger, counted'', last⟩ := (Crew.steps_of_executeAll _ (clerk "a" .succeeded)
    rfl (fun _ _ _ => rfl) (fun _ _ _ => rfl) (List.nil_append _).symm).imp
    fun _ => Exists.imp fun _ next => And.imp_right fifth.trans next
  have reachable : Crew.Reachable {} _ := ⟨emptyWorld, rfl, last⟩
  refine ⟨_, reachable, rfl, ?_, ?_, owned_and_balanced reachable⟩
  · have completed : x.batch.tally = ⟨1, 1, 0, 0⟩ :=
      Except.ok.inj (counted.symm.trans (by dsimp only; decide +kernel))
    have failed : y.batch.tally = ⟨1, 0, 1, 0⟩ :=
      Except.ok.inj (counted'.symm.trans (by dsimp only; decide +kernel))
    have skipped : z.batch.tally = ⟨1, 0, 0, 1⟩ :=
      counted''.trans (by dsimp only; decide +kernel)
    show [x.batch.tally, y.batch.tally, z.batch.tally] = _
    rw [completed, failed, skipped]
  · dsimp only
    decide +kernel

end WorkQueue.Worker
