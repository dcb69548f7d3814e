import WorkQueue.Proofs.Memory.Claiming
import WorkQueue.Proofs.Memory.Operations
import WorkQueue.Proofs.Worker.Containment
import WorkQueue.Proofs.Worker.Stopping

/-!
# Wake-ups and stops that reach a loop

A loop claims, executes what it has claimed, and waits. Meanwhile tasks are stored, and only then the
loop is woken; it may be anywhere at either moment. A permit keeps the wake-up until the loop waits, and
several wake-ups share one permit. Still no task is overlooked: whatever the loop was told of before it
waits, it has seen in its last claim. In the same way no stop is overlooked.

A loop counts as waiting when it has come to its wait and no permit is left for it. With a permit it
only seems to wait, since it goes on at once.

## Main definitions

* `Worker.Watch`: a loop, what it shares with its callers, and the stored rows
* `Worker.Watch.Event`: what can be observed
* `Worker.Watch.Step`, `Worker.Watch.Steps`: loop and callers, in any order
* `Worker.Watch.Attentive`: what is promised of a loop that waits

## Main statements

* `Producer.run_enqueue_wakes`, `Producer.run_createChain_wakes`: tasks are stored, then the loop is woken
* `Worker.Watch.Alert.step`: what a step keeps of what the loop knows
* `Worker.Watch.Steps.claims_le`: a loop that is being stopped claims at most once more
* `Worker.Watch.no_lost_signal`: no wake-up and no stop is lost
-/

namespace WorkQueue

open Simulation

/-! ### Calls of the queue -/

namespace Producer

variable {policy : Backoff.Policy} {w w₁ : World}

/-- A task is stored, and then the loop is woken. -/
theorem run_enqueue_wakes {spec : NewTask} {t : Task}
    (stored : ((Memory.backend policy).enqueue spec : Sim (Outcome Task)).run w = (.ok t, w₁)) :
    ∃ w₂, (enqueue (Memory.backend policy) wake spec : Sim (Outcome Task)).run w = (.ok t, w₂) ∧
      w₂.memory = w₁.memory ∧ w₂.wakePermit = true := by
  rw [enqueue, run_bind, stored]
  exact ⟨_, rfl, rfl, rfl⟩

/-- A chain that is not empty is stored, and then the loop is woken. -/
theorem run_createChain_wakes {specs : List NewTask} {t : Task} {ts : List Task}
    (stored : ((Memory.backend policy).createChain specs : Sim (Outcome (List Task))).run w =
      (.ok (t :: ts), w₁)) :
    ∃ w₂, (createChain (Memory.backend policy) wake specs : Sim (Outcome (List Task))).run w =
      (.ok (t :: ts), w₂) ∧ w₂.memory = w₁.memory ∧ w₂.wakePermit = true := by
  rw [createChain, run_bind, stored]
  exact ⟨_, rfl, rfl, rfl⟩

end Producer

namespace Worker

open Memory (State Exchange Call Reply Run)

/-- The new tasks of an enqueue or a chain. -/
def newTasks? (x : Exchange) : Option (List Task) :=
  match x.call, x.reply with
  | .enqueue .., .task t => some [t]
  | .createChain .., .tasks ts => if ts.isEmpty then none else some ts
  | _, _ => none

/-- How far a stop is. -/
inductive StopStage where
  | unasked
  /-- The running flag is cleared. -/
  | lowered
  /-- The permit is left as well: the call is complete. -/
  | complete
  deriving DecidableEq

/-- A claim of the loop: the rows as it visited them, its clock reading, and its reply. -/
structure Claiming where
  rows : State
  now : Timestamp
  reply : Outcome (List Task)

/-- A loop, what it shares with its callers, and the stored rows. -/
structure Watch where
  rows : State := {}
  signals : Signals := {}
  /-- Where the loop stands, once the worker is run. -/
  phase : Option Loop.Phase := none
  /-- What the batch in progress has claimed, once it has. -/
  claimed : Option (Outcome (List Task)) := none
  /-- What was stored by calls that have not woken the loop yet. -/
  unannounced : List (List Task) := []
  stop : StopStage := .unasked

namespace Watch

/-- What can be observed of loop and callers. -/
inductive Event where
  /-- An enqueue or a chain has stored its tasks. -/
  | stored (ts : List Task)
  /-- It has woken the loop as well: the call is complete. -/
  | announced (ts : List Task)
  | claimed (c : Claiming)
  | stopBegun
  | stopEnded

def Event.isClaim : Event → Bool
  | .claimed _ => true
  | _ => false

/-- A step of the loop or of a caller. What the executions of a batch ask of the storage is among the
calls of `serve`, and so is whatever else is asked by anyone. -/
inductive Step (policy : Backoff.Policy) (worker : String) (config : Settings.Worker) (w : Watch) :
    List Event → Watch → Prop
  | store {x : Exchange} {s : State} {ts : List Task} (call : Memory.Step policy w.rows x s)
      (new : newTasks? x = some ts) :
      Step policy worker config w [.stored ts]
        { w with rows := s, unannounced := ts :: w.unannounced }
  | announce {before after : List (List Task)} {ts : List Task}
      (waiting : w.unannounced = before ++ ts :: after) :
      Step policy worker config w [.announced ts]
        { w with signals := w.signals.wake, unannounced := before ++ after }
  | serve {x : Exchange} {s : State} (call : Memory.Step policy w.rows x s) :
      Step policy worker config w [] { w with rows := s }
  | run (fresh : w.phase = none) :
      Step policy worker config w []
        { w with signals := w.signals.begin_.2, phase := some .top }
  | stopBegins (begun : w.phase ≠ none) (once : w.stop = .unasked) :
      Step policy worker config w [.stopBegun]
        { w with signals := w.signals.lower, stop := .lowered }
  | stopEnds (half : w.stop = .lowered) :
      Step policy worker config w [.stopEnded]
        { w with signals := w.signals.permitStop, stop := .complete }
  | claim {order : List Task} (inBatch : w.phase = some .batch) (first : w.claimed = none)
      (perm : order.Perm w.rows.tasks) (now : Timestamp) :
      Step policy worker config w
        [.claimed ⟨w.rows.visiting order, now,
          .ok ((w.rows.visiting order).claim worker config.batchSize now).1⟩]
        { w with
          rows := ((w.rows.visiting order).claim worker config.batchSize now).2
          claimed := some (.ok ((w.rows.visiting order).claim worker config.batchSize now).1) }
  | claimFails (inBatch : w.phase = some .batch) (first : w.claimed = none) (now : Timestamp)
      (failure : Failure) :
      Step policy worker config w [.claimed ⟨w.rows, now, .error failure⟩]
        { w with claimed := some (.error failure) }
  | batchEnds {reply : Outcome (List Task)} {outcome : Outcome Tally}
      (inBatch : w.phase = some .batch) (known : w.claimed = some reply)
      (counted : outcome.map Tally.claimed = reply.map List.length) :
      Step policy worker config w []
        { w with phase := some (.settled (skipsWait config outcome)), claimed := none }
  | moves {move : Loops.Move} {signals : Signals} {phase phase' : Loop.Phase}
      (here : w.phase = some phase) (outside : phase ≠ .batch)
      (led : move.lead? w.signals phase = some (signals, phase')) :
      Step policy worker config w [] { w with signals := signals, phase := some phase' }

/-- A batch counts what it has claimed, however its executions go. -/
theorem counted_of_batchRun {P : Type} {joint : List (Nat × Asked P)}
    {reply : Outcome (List Task)} {outcome : Outcome Tally} (run : BatchRun reply joint outcome) :
    outcome.map Tally.claimed = reply.map List.length := by
  cases run with
  | refused failure => rfl
  | executed held =>
    rw [foldl_add]
    rfl

/-- A batch ends when its executions have run side by side, whatever they have asked. -/
theorem Step.of_batchRun {policy : Backoff.Policy} {worker : String} {config : Settings.Worker}
    {w : Watch} {P : Type} {joint : List (Nat × Asked P)} {reply : Outcome (List Task)}
    {outcome : Outcome Tally} (inBatch : w.phase = some .batch) (known : w.claimed = some reply)
    (run : BatchRun reply joint outcome) : Step policy worker config w []
      { w with phase := some (.settled (skipsWait config outcome)), claimed := none } :=
  .batchEnds inBatch known (counted_of_batchRun run)

theorem Step.batchEnds_of_taken {policy : Backoff.Policy} {worker : String}
    {config : Settings.Worker} {w : Watch} {taken : List Task} (inBatch : w.phase = some .batch)
    (known : w.claimed = some (.ok taken)) : Step policy worker config w []
      { w with
        phase := some (.settled (skipsWait config (.ok { claimed := taken.length })))
        claimed := none } :=
  .batchEnds inBatch known rfl

/-- Any number of steps, with all that was observed. -/
inductive Steps (policy : Backoff.Policy) (worker : String) (config : Settings.Worker) (w : Watch) :
    List Event → Watch → Prop
  | nil : Steps policy worker config w [] w
  | snoc {history events : List Event} {w₁ w₂ : Watch}
      (first : Steps policy worker config w history w₁)
      (next : Step policy worker config w₁ events w₂) :
      Steps policy worker config w (history ++ events) w₂

/-- The loop waits, and no permit is left for it. -/
def Parked (w : Watch) : Prop :=
  w.phase = some .parked ∧ w.signals.wakePermit = false ∧ w.signals.stopPermit = false

/-- The last claim of a history, and what was observed before it. -/
def LastClaim (history before : List Event) (c : Claiming) : Prop :=
  ∃ after, history = before ++ .claimed c :: after ∧ ∀ e ∈ after, e.isClaim = false

/-- What is promised of a loop that waits. -/
structure Attentive (config : Settings.Worker) (history before : List Event) (c : Claiming) :
    Prop where
  last : LastClaim history before c
  /-- Whatever the loop was told of was stored before its last claim, which has visited it. -/
  heard : ∀ ts, .announced ts ∈ history → .stored ts ∈ before ∧
    ∀ t ∈ ts, ∃ row ∈ c.rows.tasks, row.id = t.id
  /-- The last claim has taken all that it could, unless it failed. -/
  taken : ∀ rows, c.reply = .ok rows → rows.length < config.batchSize ∧
    ∀ t ∈ c.rows.tasks, c.rows.Claimable c.now t → ∃ row ∈ rows, row.id = t.id
  notStopped : .stopEnded ∉ history

variable {policy : Backoff.Policy} {worker : String} {config : Settings.Worker}
  {w w' : Watch} {history before events : List Event} {c : Claiming} {ts : List Task}

/-! ### Histories -/

theorem LastClaim.append (last : LastClaim history before c)
    (silent : ∀ e ∈ events, e.isClaim = false) : LastClaim (history ++ events) before c := by
  obtain ⟨after, rfl, none_after⟩ := last
  refine ⟨after ++ events, by simp, fun e he => ?_⟩
  exact (List.mem_append.1 he).elim (none_after e) (silent e)

theorem lastClaim_concat (history : List Event) (c : Claiming) :
    LastClaim (history ++ [.claimed c]) history c :=
  ⟨[], rfl, fun _ h => absurd h List.not_mem_nil⟩

/-! ### Stored tasks -/

theorem mem_of_newTasks {x : Exchange} {s s' : State} (served : Memory.Step policy s x s')
    (new : newTasks? x = some ts) : ∀ t ∈ ts, t ∈ s'.tasks := by
  obtain ⟨order, perm, admissible, change⟩ := served.change
  clear served
  obtain ⟨call, reply⟩ := x
  intro t ht
  cases change with
  | enqueued id now accepted =>
    obtain rfl := Option.some.inj new
    exact List.mem_append_right _ ht
  | chained ids now accepted =>
    simp only [newTasks?, Option.ite_none_left_eq_some] at new
    obtain rfl := Option.some.inj new.2
    exact List.mem_append_right _ ht
  | refused call failure => cases call <;> cases new
  | moved subject =>
    cases call with
    | enqueue | createChain => cases subject
    | _ => cases new
  | linkedBefore | linked | registered | claimed => cases new

/-- The rows are those of some run of the storage, and whatever was stored is among them. -/
structure Stocked (policy : Backoff.Policy) (history : List Event) (s : State) : Prop where
  reachable : ∃ exchanges, Run policy {} exchanges s
  kept : ∀ ts, .stored ts ∈ history → ∀ t ∈ ts, (s.find? t.id).isSome

namespace Stocked

variable {s s' : State} {x : Exchange}

theorem keyed (stocked : Stocked policy history s) : s.Keyed := by
  obtain ⟨exchanges, run⟩ := stocked.reachable
  exact run.keyed Memory.keyed_empty

theorem serve (stocked : Stocked policy history s) (call : Memory.Step policy s x s') :
    Stocked policy history s' := by
  constructor
  · obtain ⟨exchanges, run⟩ := stocked.reachable
    exact ⟨_, run.snoc call⟩
  · exact fun ts stored t ht => call.isSome_find? stocked.keyed (stocked.kept ts stored t ht)

theorem store (stocked : Stocked policy history s) (call : Memory.Step policy s x s')
    (new : newTasks? x = some ts) : Stocked policy (history ++ [.stored ts]) s' := by
  refine ⟨(stocked.serve call).reachable, fun ts' stored t ht => ?_⟩
  rcases List.mem_append.1 stored with before | now
  · exact (stocked.serve call).kept ts' before t ht
  · obtain rfl : ts' = ts := by simpa using now
    have found := (State.find?_eq_some_iff (stocked.serve call).keyed).2
      ⟨mem_of_newTasks call new t ht, rfl⟩
    exact found ▸ rfl

theorem append (stocked : Stocked policy history s) (silent : ∀ ts, .stored ts ∉ events) :
    Stocked policy (history ++ events) s := by
  refine ⟨stocked.reachable, fun ts stored => ?_⟩
  exact stocked.kept ts ((List.mem_append.1 stored).resolve_right (silent ts))

/-- Every claim of the loop is a call of the storage, and no other step touches the rows. -/
theorem step (stocked : Stocked policy history w.rows)
    (step : Step policy worker config w events w') : Stocked policy (history ++ events) w'.rows := by
  cases step with
  | store call new => exact stocked.store call new
  | serve call => exact (stocked.serve call).append (by simp)
  | claim inBatch first perm now =>
    have call : Memory.Step policy w.rows ⟨.claim worker config.batchSize now, _⟩ _ :=
      .serve perm trivial
    exact (stocked.serve call).append (by simp)
  | announce | run | stopBegins | stopEnds | claimFails | batchEnds | moves =>
    exact stocked.append (by simp)

end Stocked

/-! ### What the loop knows -/

/-- A claim has looked at all that was stored before it, and what it took short of a full batch is all
that it could take. -/
structure Thorough (config : Settings.Worker) (before : List Event) (c : Claiming) : Prop where
  looked : ∀ ts, .stored ts ∈ before → ∀ t ∈ ts, ∃ row ∈ c.rows.tasks, row.id = t.id
  exhausted : ∀ rows, c.reply = .ok rows → rows.length < config.batchSize →
    ∀ t ∈ c.rows.tasks, c.rows.Claimable c.now t → ∃ row ∈ rows, row.id = t.id

theorem Stocked.exists_row {s : State} {order : List Task} (stocked : Stocked policy history s)
    (perm : order.Perm s.tasks) {ts : List Task} (stored : .stored ts ∈ history) :
    ∀ t ∈ ts, ∃ row ∈ order, row.id = t.id := by
  intro t ht
  obtain ⟨row, found⟩ := Option.isSome_iff_exists.1 (stocked.kept ts stored t ht)
  exact ⟨row, perm.mem_iff.2 (State.mem_of_find? found), State.id_of_find? found⟩

/-- A claim that takes less than it may takes all claimable tasks. -/
theorem thorough_of_claim {s : State} {order : List Task} (stocked : Stocked policy history s)
    (perm : order.Perm s.tasks) (worker : String) (now : Timestamp) :
    Thorough config history ⟨s.visiting order, now,
      .ok ((s.visiting order).claim worker config.batchSize now).1⟩ where
  looked _ stored := stocked.exists_row perm stored
  exhausted := by
    rintro _ ⟨⟩ short t ht claimable
    obtain ⟨exchanges, run⟩ := stocked.reachable
    have known : ∃ type, (s.visiting order).findType? t.taskType = some type :=
      run.exists_type ((State.find?_eq_some_iff stocked.keyed).2 ⟨perm.mem_iff.1 ht, rfl⟩)
    have sorted : t ∈ Task.sortForClaim
        ((s.visiting order).tasks.filter ((s.visiting order).isClaimable now)) :=
      (Task.perm_sortForClaim _).mem_iff.2
        (List.mem_filter.2 ⟨ht, (State.isClaimable_iff_claimable known).2 claimable⟩)
    have candidate : t ∈ (s.visiting order).candidates config.batchSize now := by
      rw [State.claim_fst, List.length_map, State.candidates, List.length_take] at short
      -- the limit was not reached, so nothing was cut off
      rwa [State.candidates, List.take_of_length_le (by omega)]
    exact ⟨_, List.mem_map_of_mem candidate, rfl⟩

theorem thorough_of_failure {s : State} (stocked : Stocked policy history s) (now : Timestamp)
    (failure : Failure) : Thorough config history ⟨s, now, .error failure⟩ where
  looked _ stored := stocked.exists_row (List.Perm.refl _) stored
  exhausted _ taken := by cases taken

/-- What the loop has kept of its last claim at the point where it stands. Before it claims it knows
nothing, and it does not need to. -/
def Recalls (config : Settings.Worker) (c : Claiming) (w : Watch) : Prop :=
  match w.phase with
  | some .batch => w.claimed = some c.reply
  | some (.settled false) | some .parked =>
    ∀ rows, c.reply = .ok rows → rows.length < config.batchSize
  | _ => True

/-- The loop is between a claim and the end of the wait after it. -/
def HasClaimed (w : Watch) : Prop :=
  match w.phase with
  | some .batch => w.claimed.isSome
  | some (.settled _) | some .parked => True
  | _ => False

/-- What the loop has heard: after a claim, whatever was announced was stored before the claim, or a
wake-up is left for the loop. -/
structure Alert (config : Settings.Worker) (history : List Event) (w : Watch) : Prop where
  inBatch : w.claimed.isSome → w.phase = some .batch
  unannounced : ∀ ts ∈ w.unannounced, .stored ts ∈ history
  announced : ∀ ts, .announced ts ∈ history → .stored ts ∈ history
  claimed : w.HasClaimed → ∃ before c, LastClaim history before c ∧ Thorough config before c ∧
    Recalls config c w ∧
    ∀ ts, .announced ts ∈ history → w.signals.wakePermit = true ∨ .stored ts ∈ before

namespace Alert

/-- Callers do not move the loop, and each wakes it after its tasks were stored. -/
theorem keep (alert : Alert config history w) (phase : w'.phase = w.phase)
    (claimed : w'.claimed = w.claimed)
    (permit : w.signals.wakePermit = true → w'.signals.wakePermit = true)
    (unannounced : ∀ ts ∈ w'.unannounced, ts ∈ w.unannounced ∨ .stored ts ∈ events)
    (silent : ∀ e ∈ events, e.isClaim = false)
    (woken : ∀ ts, .announced ts ∈ events → ts ∈ w.unannounced ∧ w'.signals.wakePermit = true) :
    Alert config (history ++ events) w' := by
  constructor
  · rw [phase, claimed]
    exact alert.inBatch
  · intro ts hts
    exact List.mem_append.2 ((unannounced ts hts).imp_left (alert.unannounced ts))
  · intro ts announced
    refine List.mem_append_left _ ?_
    rcases List.mem_append.1 announced with before | now
    · exact alert.announced ts before
    · exact alert.unannounced ts (woken ts now).1
  · intro has
    have has : w.HasClaimed := by rwa [HasClaimed, phase, claimed] at has
    obtain ⟨before, c, last, thorough, recalls, heard⟩ := alert.claimed has
    refine ⟨before, c, last.append silent, thorough, ?_, fun ts announced => ?_⟩
    · rwa [Recalls, phase, claimed]
    · rcases List.mem_append.1 announced with earlier | now
      · exact (heard ts earlier).imp_left permit
      · exact .inl (woken ts now).2

/-- A claim looks at everything that was stored before it, so the loop has heard of it all. -/
theorem claims (alert : Alert config history w) (inBatch : w.phase = some .batch)
    (thorough : Thorough config history c) (s : State) :
    Alert config (history ++ [.claimed c]) { w with rows := s, claimed := some c.reply } := by
  constructor
  · exact fun _ => inBatch
  · exact fun ts hts => List.mem_append_left _ (alert.unannounced ts hts)
  · intro ts announced
    have before : .announced ts ∈ history := by simpa using announced
    exact List.mem_append_left _ (alert.announced ts before)
  · intro _
    refine ⟨history, c, lastClaim_concat history c, thorough, ?_, fun ts announced => ?_⟩
    · simp only [Recalls, inBatch]
    · have before : .announced ts ∈ history := by simpa using announced
      exact .inr (alert.announced ts before)

/-- After a batch the loop recalls whether its claim was full. -/
theorem batchEnds (alert : Alert config history w) {reply : Outcome (List Task)}
    {outcome : Outcome Tally} (inBatch : w.phase = some .batch) (known : w.claimed = some reply)
    (counted : outcome.map Tally.claimed = reply.map List.length) :
    Alert config history
      { w with phase := some (.settled (skipsWait config outcome)), claimed := none } := by
  refine ⟨fun h => (by cases h), alert.unannounced, alert.announced, fun _ => ?_⟩
  have has : w.HasClaimed := by simp [HasClaimed, inBatch, known]
  obtain ⟨before, c, last, thorough, recalls, heard⟩ := alert.claimed has
  refine ⟨before, c, last, thorough, ?_, heard⟩
  have reply_eq : reply = c.reply := by
    simp only [Recalls, inBatch, known] at recalls
    exact Option.some.inj recalls
  cases skips : skipsWait config outcome with
  | true => trivial
  | false =>
    -- the loop waits after a batch only if the claim was short of its limit
    intro rows taken
    rw [reply_eq, taken] at counted
    cases outcome with
    | error failure => cases counted
    | ok tally =>
      have claimed : tally.claimed = rows.length := Except.ok.inj counted
      have parks : ¬ config.batchSize ≤ tally.claimed ∧ ¬ config.pollIntervalMs = 0 := by
        simpa [skipsWait] using skips
      omega

/-- The loop comes to its wait only from the end of a batch, and goes back to its claim from there. -/
theorem moves (alert : Alert config history w) {signals : Signals} {phase phase' : Loop.Phase}
    (here : w.phase = some phase) (outside : phase ≠ .batch)
    (lead : Loops.Lead w.signals phase signals phase') :
    Alert config history { w with signals := signals, phase := some phase' } := by
  have idle : w.claimed.isSome = false := by
    rw [Bool.eq_false_iff]
    intro busy
    exact outside (Option.some.inj (here.symm.trans (alert.inBatch busy)))
  refine ⟨fun busy => absurd busy (by simp [idle]), alert.unannounced, alert.announced,
    fun has => ?_⟩
  cases lead with
  | enters => simp [HasClaimed, idle] at has
  | ends => exact absurd rfl outside
  | leaves | goesOn | quits | pollIntervalEnds | woken | stopped | returns => cases has
  | parks =>
    -- a batch has come before, and the loop carries what it recalls into its wait
    have before : w.HasClaimed := by simp [HasClaimed, here]
    obtain ⟨before, c, last, thorough, recalls, heard⟩ := alert.claimed before
    refine ⟨before, c, last, thorough, ?_, heard⟩
    simp only [Recalls, here] at recalls ⊢
    exact recalls
  | stays =>
    have same : { w with phase := some phase } = w := by rw [← here]
    rw [same] at has ⊢
    exact alert.claimed has

/-- What a step keeps of what the loop knows. -/
theorem step (alert : Alert config history w) (stocked : Stocked policy history w.rows)
    (step : Step policy worker config w events w') : Alert config (history ++ events) w' := by
  cases step with
  | store call new =>
    exact alert.keep rfl rfl id (by simp [or_comm]) (by simp [Event.isClaim]) (by simp)
  | announce waiting =>
    refine alert.keep rfl rfl (fun _ => rfl) ?_ (by simp [Event.isClaim]) ?_
    · intro ts hts
      rw [waiting]
      simp only [List.mem_append, List.mem_cons] at hts ⊢
      tauto
    · intro ts announced
      obtain rfl : ts = _ := by simpa using announced
      exact ⟨by simp [waiting], rfl⟩
  | serve | stopBegins | stopEnds =>
    exact alert.keep rfl rfl id (by simp) (by simp [Event.isClaim]) (by simp)
  | run fresh =>
    rw [List.append_nil]
    refine ⟨fun busy => ?_, alert.unannounced, alert.announced, fun has => (by cases has)⟩
    cases fresh.symm.trans (alert.inBatch busy)
  | claim inBatch first perm now =>
    exact alert.claims inBatch (thorough_of_claim stocked perm worker now) _
  | claimFails inBatch first now failure =>
    exact alert.claims inBatch (thorough_of_failure stocked now failure) _
  | batchEnds inBatch known counted =>
    rw [List.append_nil]
    exact alert.batchEnds inBatch known counted
  | moves here outside led =>
    rw [List.append_nil]
    exact alert.moves here outside (Loops.lead_of_lead? led)

end Alert

/-! ### Stops -/

/-- What is left of a stop: the flag stays cleared, and the permit waits for a loop that is not about to
return. -/
structure Halting (history : List Event) (w : Watch) : Prop where
  unasked : w.phase = none → w.stop = .unasked
  cleared : w.stop ≠ .unasked → w.signals.running = false
  permit : w.stop = .complete → w.signals.stopPermit = true ∨ w.phase = some .leaving ∨
    w.phase = some .returned
  complete : .stopEnded ∈ history → w.stop = .complete

/-- No move sets the flag, and only a loop that is about to return takes the permit of a stop. -/
theorem Halting.moves (halting : Halting history w) {signals : Signals} {phase phase' : Loop.Phase}
    (here : w.phase = some phase) (lead : Loops.Lead w.signals phase signals phase') :
    Halting history { w with signals := signals, phase := some phase' } := by
  refine ⟨fun none => (by cases none), fun asked => ?_, fun done => ?_, halting.complete⟩
  · have cleared := halting.cleared asked
    cases lead with
    | returns => rfl
    | _ => exact cleared
  · -- the permit is taken on the way to the return, and not before
    have permit := halting.permit done
    rw [here] at permit
    cases lead with
    | stopped => exact .inr (.inl rfl)
    | returns => exact .inr (.inr rfl)
    | stays => exact permit
    | enters | leaves | ends | goesOn | parks | quits | pollIntervalEnds | woken =>
      exact .inl (permit.resolve_right (by simp))

theorem Halting.step (halting : Halting history w)
    (step : Step policy worker config w events w') : Halting (history ++ events) w' := by
  obtain ⟨unasked, cleared, permit, complete⟩ := halting
  cases step with
  | store | announce | serve | claim | claimFails =>
    exact ⟨unasked, cleared, permit, fun h => complete (by simpa using h)⟩
  | run fresh =>
    have idle := unasked fresh
    refine ⟨fun none => (by cases none), fun asked => absurd idle asked, fun done => ?_,
      fun h => complete (by simpa using h)⟩
    cases idle.symm.trans done
  | stopBegins begun once =>
    refine ⟨fun none => absurd none begun, fun _ => rfl, fun done => (by cases done), fun h => ?_⟩
    cases once.symm.trans (complete (by simpa using h))
  | stopEnds half =>
    refine ⟨fun none => ?_, fun _ => cleared (by simp [half]), fun _ => .inl rfl, fun _ => rfl⟩
    cases half.symm.trans (unasked none)
  | batchEnds inBatch =>
    refine ⟨fun none => (by cases none), cleared, fun done => ?_,
      fun h => complete (by simpa using h)⟩
    exact .inl ((permit done).resolve_right (by simp [inBatch]))
  | moves here outside led =>
    rw [List.append_nil]
    exact Halting.moves ⟨unasked, cleared, permit, complete⟩ here (Loops.lead_of_lead? led)

/-- How often the loop can still claim, when its flag is cleared: once, if it has entered a batch. -/
def claimsLeft (w : Watch) : Nat := if w.phase = some .batch ∧ w.claimed = none then 1 else 0

/-- A loop whose flag is cleared enters no batch. -/
theorem claimsLeft_step (step : Step policy worker config w events w') (begun : w.phase ≠ none)
    (cleared : w.signals.running = false) :
    events.countP Event.isClaim + w'.claimsLeft ≤ w.claimsLeft ∧ w'.phase ≠ none ∧
      w'.signals.running = false := by
  cases step with
  | store | announce | serve | stopEnds =>
    exact ⟨Nat.le_of_eq (by simp [Event.isClaim, claimsLeft]), begun, cleared⟩
  | stopBegins => exact ⟨Nat.le_of_eq (by simp [Event.isClaim, claimsLeft]), begun, rfl⟩
  | run fresh => exact absurd fresh begun
  | claim inBatch first | claimFails inBatch first =>
    exact ⟨by simp [Event.isClaim, claimsLeft, inBatch, first], begun, cleared⟩
  | batchEnds => exact ⟨by simp [claimsLeft], by simp, cleared⟩
  | moves here outside led =>
    have lead := Loops.lead_of_lead? led
    refine ⟨?_, by simp, ?_⟩
    · cases lead with
      | enters running => simp [cleared] at running
      | stays => simp [claimsLeft, outside]
      | _ => simp [claimsLeft]
    · cases lead with
      | returns => rfl
      | _ => exact cleared

namespace Steps

theorem claims_le (steps : Steps policy worker config w history w') (begun : w.phase ≠ none)
    (cleared : w.signals.running = false) :
    history.countP Event.isClaim + w'.claimsLeft ≤ w.claimsLeft ∧ w'.phase ≠ none ∧
      w'.signals.running = false := by
  induction steps with
  | nil => exact ⟨by simp, begun, cleared⟩
  | snoc _ next ih =>
    obtain ⟨before, begun, cleared⟩ := ih
    obtain ⟨now, begun, cleared⟩ := claimsLeft_step next begun cleared
    rw [List.countP_append]
    exact ⟨by omega, begun, cleared⟩

theorem stocked (steps : Steps policy worker config {} history w) :
    Stocked policy history w.rows := by
  induction steps with
  | nil => exact ⟨⟨[], .nil⟩, fun _ h => absurd h List.not_mem_nil⟩
  | snoc _ next ih => exact ih.step next

theorem alert (steps : Steps policy worker config {} history w) : Alert config history w := by
  induction steps with
  | nil =>
    exact ⟨fun h => (by cases h), fun _ h => absurd h List.not_mem_nil,
      fun _ h => absurd h List.not_mem_nil, fun h => (by cases h)⟩
  | snoc before next ih => exact ih.step before.stocked next

theorem halting (steps : Steps policy worker config {} history w) : Halting history w := by
  induction steps with
  | nil =>
    exact ⟨fun _ => rfl, fun h => absurd rfl h, fun h => (by cases h),
      fun h => absurd h List.not_mem_nil⟩
  | snoc _ next ih => exact ih.step next

end Steps

/-! ### Signals that reach the loop -/

/-- A worker is new and is run once, and its queue is new. Then in every state in which the loop waits,
its last claim came after all that it was told of, and took all it could unless it failed; and no stop
is complete. Once a stop is complete, the loop claims at most once more. -/
theorem no_lost_signal (steps : Steps policy worker config {} history w) :
    (w.Parked → ∃ before c, Attentive config history before c) ∧
      (.stopEnded ∈ history → ∀ later w', Steps policy worker config w later w' →
        later.countP Event.isClaim ≤ 1) := by
  have halting := steps.halting
  constructor
  · rintro ⟨parked, noWake, noStop⟩
    have has : w.HasClaimed := by simp [HasClaimed, parked]
    obtain ⟨before, c, last, thorough, recalls, heard⟩ := steps.alert.claimed has
    refine ⟨before, c, last, fun ts announced => ?_, fun rows taken => ?_, fun complete => ?_⟩
    · have stored := (heard ts announced).resolve_left (by simp [noWake])
      exact ⟨stored, thorough.looked ts stored⟩
    · simp only [Recalls, parked] at recalls
      exact ⟨recalls rows taken, thorough.exhausted rows taken (recalls rows taken)⟩
    · have permit := halting.permit (halting.complete complete)
      simp [parked, noStop] at permit
  · intro complete later w' continued
    have done := halting.complete complete
    have begun : w.phase ≠ none := fun none => by cases done.symm.trans (halting.unasked none)
    have bound := (continued.claims_le begun (halting.cleared (by simp [done]))).1
    have once : w.claimsLeft ≤ 1 := by
      unfold claimsLeft
      split
      · exact Nat.le_refl 1
      · exact Nat.zero_le 1
    omega

/-- A mail is stored after the loop has entered its batch, and is announced after it was claimed. The
loop claims again before it waits. -/
theorem no_lost_signal_of_mail : ∃ history w, Steps {} "a" {} {} history w ∧ w.Parked ∧
    (∃ ts, .announced ts ∈ history) ∧ ∃ before c, Attentive {} history before c := by
  have known : Steps {} "a" {} {} _ _ := .snoc .nil (.serve
    (x := ⟨.upsertType ⟨"mail", 2, 0, none⟩ .epoch, _⟩) (.serve (List.Perm.refl _) (by decide)))
  have entered := (known.snoc (.run rfl)).snoc
    (.moves rfl (by decide) (rfl : Loops.Move.lead? _ .advance .top = some (_, .batch)))
  have stored := entered.snoc (.store
    (x := ⟨.enqueue { taskType := "mail", payload := .null } ⟨1⟩ .epoch, _⟩)
    (.serve (List.Perm.refl _) rfl) rfl)
  have claimed := stored.snoc (.claim rfl rfl (List.Perm.refl _) .epoch)
  have announced := claimed.snoc (.announce (rfl : _ = [] ++ _ :: []))
  have waiting := (announced.snoc (.batchEnds_of_taken rfl rfl)).snoc
    (.moves (by decide +kernel : _ = some (.settled false)) (by simp)
      (rfl : Loops.Move.lead? _ .advance (.settled false) = some (_, .parked)))
  have woken := waiting.snoc
    (.moves rfl (by simp) (rfl : Loops.Move.lead? _ .wakes .parked = some (_, .top)))
  have again := (woken.snoc
    (.moves rfl (by simp) (rfl : Loops.Move.lead? _ .advance .top = some (_, .batch)))).snoc
    (.claim rfl rfl (List.Perm.refl _) .epoch)
  have steps := (again.snoc (.batchEnds_of_taken rfl rfl)).snoc
    (.moves (by decide +kernel : _ = some (.settled false)) (by simp)
      (rfl : Loops.Move.lead? _ .advance (.settled false) = some (_, .parked)))
  refine ⟨_, _, steps, ?_, by simp, (no_lost_signal steps).1 ?_⟩
  · exact ⟨rfl, rfl, rfl⟩
  · exact ⟨rfl, rfl, rfl⟩

end Watch

end Worker

end WorkQueue
