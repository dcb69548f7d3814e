import WorkQueue.Proofs.Binary64.Values
import WorkQueue.Proofs.Listing.Partition
import WorkQueue.Proofs.Memory.Chronicle

/-!
# Counting stored tasks

Metrics are added up from rows with a status and a count, in the order in which they come. What they
add up to depends on the sum for each status and on nothing else, so they agree with every listing of
the same rows. A task is counted from its creation on: transitions move it from one count to another.

## Main definitions

* `Metrics.sumOf`: what rows of a status add up to
* `Metrics.Rated`: the share of failed tasks, as a number
* `Memory.Exchange.created`: the tasks that a call has created
* `Memory.CountsListings`: what is promised of the metrics of stored tasks

## Main statements

* `Metrics.count_ofCounts`, `Metrics.ofCounts_eq_iff`: only sums matter
* `Metrics.rated`: the share is the number nearest to the quotient
* `Memory.Step.length_tasks`, `Memory.Run.length_tasks`: tasks are created, and never removed
* `Memory.Run.countsListings`: in every run the promise is kept
-/

namespace WorkQueue

namespace Metrics

variable {m m' : Metrics} {status : Status} {counts counts' : List (Status × Int)}

/-! ### Sums -/

/-- What the rows of a status add up to. -/
def sumOf (status : Status) (counts : List (Status × Int)) : Int :=
  ((counts.filter fun row => row.1 = status).map (·.2)).sum

@[simp] theorem sumOf_nil (status : Status) : sumOf status [] = 0 := rfl

@[simp] theorem sumOf_cons (status : Status) (row : Status × Int) (counts : List (Status × Int)) :
    sumOf status (row :: counts) = (if row.1 = status then row.2 else 0) + sumOf status counts := by
  by_cases same : row.1 = status <;> simp [sumOf, same]

/-- Metrics are their counts. -/
theorem eq_of_counts (counts : ∀ status, m.count status = m'.count status)
    (total : m.total = m'.total) : m = m' := by
  have pending := counts .pending
  have claimed := counts .claimed
  have processing := counts .processing
  have completed := counts .completed
  have failed := counts .failed
  have cancelled := counts .cancelled
  cases m
  cases m'
  simp_all [count]

theorem count_add (m : Metrics) (added : Status) (n : Int) (status : Status) :
    (m.add added n).count status = m.count status + if added = status then n else 0 := by
  cases added <;> cases status <;> simp [add, count]

theorem total_add (m : Metrics) (added : Status) (n : Int) :
    (m.add added n).total = m.total + n := by
  cases added <;> rfl

/-- The total is the sum of the six counts. -/
def Balanced (m : Metrics) : Prop := m.total = (Status.all.map m.count).sum

theorem Balanced.add (balanced : m.Balanced) (added : Status) (n : Int) : (m.add added n).Balanced := by
  simp only [Balanced, Status.all, List.map_cons, List.map_nil, List.sum_cons, List.sum_nil, total_add,
    count_add] at balanced ⊢
  rw [balanced]
  cases added <;> simp <;> omega

theorem inFlight_eq (m : Metrics) : m.inFlight = m.count .claimed + m.count .processing := by
  have held : Status.all.filter Status.isActive = [.claimed, .processing] := by decide
  simp [inFlight, held]

/-! ### Metrics of rows -/

theorem ofCounts_eq_foldl (counts : List (Status × Int)) :
    ofCounts counts = counts.foldl (fun m row => m.add row.1 row.2) {} := rfl

theorem count_foldl_add (m : Metrics) (counts : List (Status × Int)) (status : Status) :
    (counts.foldl (fun m row => m.add row.1 row.2) m).count status =
      m.count status + sumOf status counts := by
  induction counts generalizing m with
  | nil => simp
  | cons row counts ih => rw [List.foldl_cons, ih, count_add, sumOf_cons, Int.add_assoc]

theorem balanced_foldl_add (balanced : m.Balanced) (counts : List (Status × Int)) :
    (counts.foldl (fun m row => m.add row.1 row.2) m).Balanced := by
  induction counts generalizing m with
  | nil => exact balanced
  | cons row counts ih => exact ih (balanced.add row.1 row.2)

theorem count_ofCounts (counts : List (Status × Int)) (status : Status) :
    (ofCounts counts).count status = sumOf status counts := by
  have from_zero : ({} : Metrics).count status = 0 := by cases status <;> rfl
  rw [ofCounts_eq_foldl, count_foldl_add, from_zero, Int.zero_add]

theorem balanced_ofCounts (counts : List (Status × Int)) : (ofCounts counts).Balanced := by
  have from_zero : ({} : Metrics).Balanced := rfl
  exact balanced_foldl_add from_zero counts

theorem total_ofCounts (counts : List (Status × Int)) :
    (ofCounts counts).total = (counts.map (·.2)).sum := by
  have summed : ∀ m : Metrics, (counts.foldl (fun m row => m.add row.1 row.2) m).total =
      m.total + (counts.map (·.2)).sum := by
    induction counts with
    | nil => simp
    | cons row counts ih =>
      intro m
      rw [List.foldl_cons, ih, total_add, List.map_cons, List.sum_cons, Int.add_assoc]
  rw [ofCounts_eq_foldl, summed]
  exact Int.zero_add _

/-- Rows have the same metrics if and only if they have the same sum for each status. -/
theorem ofCounts_eq_iff : ofCounts counts = ofCounts counts' ↔
    ∀ status, sumOf status counts = sumOf status counts' := by
  constructor
  · intro same status
    rw [← count_ofCounts, same, count_ofCounts]
  · intro same
    have counts_eq : ∀ status, (ofCounts counts).count status = (ofCounts counts').count status := by
      simpa only [count_ofCounts] using same
    refine eq_of_counts counts_eq ?_
    rw [balanced_ofCounts counts, balanced_ofCounts counts', funext counts_eq]

theorem ofCounts_perm (perm : counts.Perm counts') : ofCounts counts = ofCounts counts' :=
  ofCounts_eq_iff.2 fun _ => ((perm.filter _).map _).sum_eq

/-! ### The share of failed tasks -/

/-- The share of failed tasks is the quotient of the count of failed tasks and the total, and zero if
there is no task. -/
structure Rated (m : Metrics) : Prop where
  /-- Both are divided as numbers of 64 bits. -/
  quotient : 0 < m.total → m.failureRate = (Binary64.ofInt (m.count .failed)).div (.ofInt m.total)
  empty : m.total = 0 → m.failureRate = .zero
  /-- As long as the total has 53 bits, no number of 64 bits is nearer to the exact quotient. -/
  nearest : m.total < 2 ^ 53 → m.failureRate.IsNearest ((m.count .failed : ℚ) / m.total)

theorem rated (nonneg : ∀ status, 0 ≤ m.count status) (balanced : m.Balanced) : m.Rated := by
  have failed_le : m.count .failed ≤ m.total := by
    have pending := nonneg .pending
    have claimed := nonneg .claimed
    have processing := nonneg .processing
    have completed := nonneg .completed
    have cancelled := nonneg .cancelled
    simp only [Balanced, Status.all, List.map_cons, List.map_nil, List.sum_cons, List.sum_nil]
      at balanced
    omega
  have failed_nonneg := nonneg .failed
  have quotient (some_ : 0 < m.total) :
      m.failureRate = (Binary64.ofInt (m.count .failed)).div (.ofInt m.total) := if_pos some_
  have empty (none_ : m.total = 0) : m.failureRate = .zero := if_neg (by omega)
  refine ⟨quotient, empty, fun small => ?_⟩
  rcases Int.lt_or_eq_of_le (failed_nonneg.trans failed_le) with some_ | none_
  · have fits : ∀ n : Int, 0 ≤ n → n ≤ m.total → n.natAbs < 2 * Binary64.significands := by
      intro n n_nonneg n_le
      simp only [Binary64.significands]
      omega
    obtain ⟨failed_finite, failed_eq⟩ := Binary64.value_ofInt (fits _ failed_nonneg failed_le)
    obtain ⟨total_finite, total_eq⟩ := Binary64.value_ofInt (fits _ some_.le le_rfl)
    have total_pos : (0 : ℚ) < m.total := Int.cast_pos.2 some_
    have at_most_one : |(Binary64.ofInt (m.count .failed)).value| / |(Binary64.ofInt m.total).value| <
        2 ^ (1 : Int) := by
      rw [failed_eq, total_eq, abs_of_nonneg (Int.cast_nonneg failed_nonneg), abs_of_pos total_pos,
        div_lt_iff₀ total_pos]
      have bound : ((m.count .failed : Int) : ℚ) ≤ m.total := Int.cast_le.2 failed_le
      linarith
    have nonzero : (Binary64.ofInt m.total).value ≠ 0 := by
      rw [total_eq]
      exact total_pos.ne'
    rw [quotient some_, ← failed_eq, ← total_eq]
    exact Binary64.isNearest_div failed_finite total_finite nonzero (by decide) at_most_one
  · rw [empty none_.symm, ← none_, Int.cast_zero, div_zero]
    exact ⟨by decide, fun y _ => by simp⟩

end Metrics

namespace Memory

open Simulation

variable {policy : Backoff.Policy} {s s' : State} {history : List Exchange} {x : Exchange}

namespace State

/-! ### Metrics of stored tasks -/

theorem count_metrics (s : State) (status : Status) :
    s.metrics.count status = (s.tasks.filter fun t => t.status = status).length := by
  rw [metrics, Metrics.count_ofCounts]
  induction s.tasks with
  | nil => rfl
  | cons t ts ih =>
    rw [List.map_cons, Metrics.sumOf_cons, ih]
    by_cases same : t.status = status
    · simp [same, Int.add_comm]
    · simp [same]

theorem total_metrics (s : State) : s.metrics.total = s.tasks.length := by
  rw [metrics, Metrics.total_ofCounts]
  simp [Function.comp_def]

theorem inFlight_metrics (s : State) : s.metrics.inFlight =
    (s.tasks.filter fun t => t.status = .claimed ∨ t.status = .processing).length := by
  rw [Metrics.inFlight_eq, count_metrics, count_metrics]
  induction s.tasks with
  | nil => rfl
  | cons t ts ih =>
    simp only [List.filter_cons, Bool.decide_or] at ih ⊢
    cases t.status <;> simp <;> omega

theorem metrics_visiting {order : List Task} (perm : order.Perm s.tasks) :
    (s.visiting order).metrics = s.metrics :=
  Metrics.ofCounts_perm (perm.map _)

/-- The total of a page counts the accepted tasks. -/
theorem total_list (s : State) (f : Filter) (r : PageRequest) :
    (s.list f r).info.total = (s.tasks.filter f.accepts).length := by
  rw [list_eq, Page.ofList_info]
  exact (s.perm_listing f).length_eq

theorem filter_withStatus (status : Status) (ts : List Task) :
    ts.filter (({} : Filter).withStatus status).accepts = ts.filter fun t => t.status = status :=
  List.filter_congr fun t _ => by simp [Filter.withStatus, Filter.accepts]

theorem filter_all (ts : List Task) : ts.filter ({} : Filter).accepts = ts :=
  List.filter_eq_self.2 fun _ _ => rfl

end State

/-! ### Tasks are created, and never removed -/

/-- The tasks that a call has created. -/
def Exchange.created (x : Exchange) : List Task :=
  match x.call, x.reply with
  | .enqueue .., .task t => [t]
  | .createChain .., .tasks ts => ts
  | _, _ => []

theorem created_refused (call : Call) (failure : Failure) :
    Exchange.created ⟨call, .refused failure⟩ = [] := by
  cases call <;> rfl

/-- A transition creates nothing. -/
theorem created_subject {call : Call} {id : Uuid} {action : Action}
    (h : call.subject? = some (id, action)) (t : Task) : Exchange.created ⟨call, .task t⟩ = [] := by
  cases call <;> first | rfl | cases h

/-- A step adds the tasks that its call has created. -/
theorem Step.length_tasks (step : Step policy s x s') :
    s'.tasks.length = s.tasks.length + x.created.length := by
  obtain ⟨order, perm, -, change⟩ := step.change
  obtain ⟨call, reply⟩ := x
  have length_put : ∀ (s : State) (t : Task), (s.put t).tasks.length = s.tasks.length :=
    fun s t => List.length_map _
  rw [← perm.length_eq]
  show _ = (s.visiting order).tasks.length + _
  generalize s.visiting order = s at change
  cases change with
  | refused => rw [created_refused, List.length_nil, Nat.add_zero]
  | enqueued | chained => exact List.length_append
  | linkedBefore | linked | registered => rfl
  | claimed worker limit now =>
    have ids := congrArg List.length (State.ids_foldl_put (s.claim worker limit now).1 s)
    rw [State.claim_snd]
    simpa [Exchange.created] using ids
  | moved subject => rw [created_subject subject, length_put, List.length_nil, Nat.add_zero]

theorem Run.length_tasks (run : Run policy {} history s) :
    s.tasks.length = (history.flatMap Exchange.created).length := by
  induction run with
  | nil => rfl
  | snoc run step ih => simp [step.length_tasks, ih]

/-! ### What is promised -/

/-- What is promised of the metrics of stored tasks: they agree with every listing, in whatever order
the rows are visited for either, and count the tasks that were created. -/
structure CountsListings (policy : Backoff.Policy) (history : List Exchange) (s : State) : Prop where
  /-- Metrics are answered from the rows, and leave the world as it is. -/
  answered : ∀ (w : World) (order : List Task), order.Perm s.tasks →
    w.memory.state = s.visiting order →
    ((backend policy).metrics : Sim (Outcome Metrics)).run w = (.ok s.metrics, w)
  /-- Every page of a listing of one status tells its count. -/
  count : ∀ (status : Status) (order : List Task) (r : PageRequest), order.Perm s.tasks →
    s.metrics.count status =
      ((s.visiting order).list (({} : Filter).withStatus status) r).info.total
  total : ∀ (order : List Task) (r : PageRequest), order.Perm s.tasks →
    s.metrics.total = ((s.visiting order).list {} r).info.total
  balanced : s.metrics.total = (Status.all.map s.metrics.count).sum
  inFlight : s.metrics.inFlight =
    (s.tasks.filter fun t => t.status = .claimed ∨ t.status = .processing).length
  rate : s.metrics.Rated
  created : s.metrics.total = (history.flatMap Exchange.created).length
  /-- Only calls that create tasks change the total. -/
  step : ∀ (x : Exchange) (s' : State), Step policy s x s' →
    s'.metrics.total = s.metrics.total + x.created.length
  /-- Reading the storage and writing to its log change no count. -/
  query : ∀ (query : Query) (w : World), w.memory.state = s →
    ((query.run policy).run w).2.memory.state.metrics = s.metrics
  written : ∀ (entry : NewLogEntry) (w : World), w.memory.state = s →
    (((backend policy).writeLog entry : Sim (Outcome Unit)).run w).2.memory.state.metrics = s.metrics

/-- In every run, the metrics of the stored tasks keep the promise. -/
theorem Run.countsListings (run : Run policy {} history s) : CountsListings policy history s where
  answered w order perm rows := by
    have same := State.metrics_visiting perm
    rw [← rows] at same
    rw [← same]
    rfl
  count status order r perm := by
    rw [← State.metrics_visiting perm, State.count_metrics, State.total_list,
      State.filter_withStatus]
  total order r perm := by
    rw [← State.metrics_visiting perm, State.total_metrics, State.total_list, State.filter_all]
  balanced := Metrics.balanced_ofCounts _
  inFlight := s.inFlight_metrics
  rate := by
    refine Metrics.rated (fun status => ?_) (Metrics.balanced_ofCounts _)
    rw [State.count_metrics]
    exact Int.natCast_nonneg _
  created := by rw [State.total_metrics, run.length_tasks]
  step x s' step := by
    rw [State.total_metrics, State.total_metrics, step.length_tasks, Int.natCast_add]
  query query w rows := by
    obtain ⟨order, perm, same⟩ := (query.sameStorage policy w).rows
    rw [same, State.metrics_visiting perm, rows]
  written entry w rows := by
    subst rows
    rfl

end Memory

end WorkQueue
