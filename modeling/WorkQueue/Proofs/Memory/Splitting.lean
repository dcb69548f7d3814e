import WorkQueue.Proofs.Memory.Queue

/-!
# Splitting a claim

Claims made one after the other at one instant, when no two claimable tasks share a key. Each of them
takes a slice of one queue, so it does not matter into how many claims a number is split, nor who
makes them.

## Main definitions

* `Memory.ClaimsAt`: histories of claims at one instant
* `Memory.ClaimsSplit`: what is promised of claims at one instant

## Main statements

* `Memory.Run.taken`, `Memory.Run.batch_eq`: what a run of claims has taken, and each of its batches
* `Memory.claims_split`: in every run, claims at one instant keep the promise
-/

namespace WorkQueue

/-- The row of a task as if another worker had claimed it. -/
def Task.heldBy (worker : String) (t : Task) : Task := { t with claimedBy := some worker }

namespace Memory

variable {policy : Backoff.Policy} {s s' : State} {history : List Exchange} {now : Timestamp}
  {worker : String} {limit : Nat} {rows : List Task}

/-! ### Claims at one instant -/

/-- The rows and the batch of a claim. -/
theorem Step.of_claim {x : Exchange} (step : Step policy s x s')
    (call : x.call = .claim worker limit now) : ∃ order, order.Perm s.tasks ∧
      x.batch = ((s.visiting order).claim worker limit now).1 ∧
      s' = ((s.visiting order).claim worker limit now).2 := by
  cases step with
  | @serve order _ perm admissible =>
    subst call
    exact ⟨order, perm, rfl, rfl⟩

/-- All calls are claims at an instant, of at least one task each. -/
def ClaimsAt (now : Timestamp) (history : List Exchange) : Prop :=
  ∀ x ∈ history, ∃ worker limit, 0 < limit ∧ x.call = .claim worker limit now

section

variable (hs : s.Keyed) (distinct : ((s.queue now).map Task.claimKey).Nodup)
include hs distinct

/-- One more claim: its batch is the next slice of the queue. -/
theorem State.Taken.step {s₁ s₂ : State} {x : Exchange} (taken : s.Taken now rows s₁)
    (step : Step policy s₁ x s₂) (call : x.call = .claim worker limit now) :
    x.batch = (((s.queue now).drop rows.length).take limit).map (State.claimedRow worker now) ∧
      s.Taken now (rows ++ x.batch) s₂ := by
  obtain ⟨order, perm, batch_eq, rfl⟩ := step.of_claim call
  rw [batch_eq]
  exact ⟨taken.batch_eq hs distinct perm, taken.claim hs distinct perm⟩

/-- The batches of a run of claims make up what has been taken. -/
theorem Run.taken (run : Run policy s history s') (claims : ClaimsAt now history) :
    s.Taken now (history.flatMap Exchange.batch) s' := by
  induction run with
  | nil => exact .refl s now
  | @snoc history s₁ s₂ x run step ih =>
    have before := ih fun y hy => claims y (List.mem_append_left _ hy)
    obtain ⟨worker, limit, -, call⟩ := claims x (List.mem_append_right _ (List.mem_singleton_self x))
    rw [List.flatMap_append, List.flatMap_singleton]
    exact (before.step hs distinct step call).2

/-- Each batch of a run of claims is a slice of the queue, which begins within what has been taken. -/
theorem Run.batch_eq (run : Run policy s history s') (claims : ClaimsAt now history) {x : Exchange}
    (hx : x ∈ history) (call : x.call = .claim worker limit now) :
    ∃ n ≤ (history.flatMap Exchange.batch).length,
      x.batch = (((s.queue now).drop n).take limit).map (State.claimedRow worker now) := by
  obtain ⟨earlier, later, rfl⟩ := List.append_of_mem hx
  obtain ⟨s₀, s₁, before, step, -⟩ := run.split rfl
  have taken := before.taken hs distinct fun y hy => claims y (List.mem_append_left _ hy)
  refine ⟨_, ?_, (taken.step hs distinct step call).1⟩
  rw [List.flatMap_append, List.length_append]
  omega

/-- Once a claim has returned nothing, the whole queue has been taken. -/
theorem Run.ids_of_empty (run : Run policy s history s') (claims : ClaimsAt now history)
    {x : Exchange} (hx : x ∈ history) (empty : x.batch = []) :
    (history.flatMap Exchange.batch).map (·.id) = (s.queue now).map (·.id) := by
  obtain ⟨worker, limit, positive, call⟩ := claims x hx
  obtain ⟨n, le, batch_eq⟩ := run.batch_eq hs distinct claims hx call
  have past : (s.queue now).length ≤ n := by
    rw [empty] at batch_eq
    have none_left := congrArg List.length batch_eq
    simp only [List.length_nil, List.length_map, List.length_take, List.length_drop] at none_left
    omega
  rw [(run.taken hs distinct claims).ids_eq, List.take_of_length_le (past.trans le)]

/-- As long as no claim has returned nothing, there were no more claims than tasks in the queue. -/
theorem Run.length_le (run : Run policy s history s') (claims : ClaimsAt now history)
    (nonempty : ∀ x ∈ history, x.batch ≠ []) : history.length ≤ (s.queue now).length := by
  have counted : ∀ {xs : List Exchange}, (∀ x ∈ xs, x.batch ≠ []) →
      xs.length ≤ (xs.flatMap Exchange.batch).length := by
    intro xs
    induction xs with
    | nil => exact fun _ => Nat.le_refl 0
    | cons x xs ih =>
      intro nonempty
      have head := List.length_pos_iff.2 (nonempty x List.mem_cons_self)
      have tail := ih fun y hy => nonempty y (List.mem_cons_of_mem x hy)
      rw [List.flatMap_cons, List.length_append, List.length_cons]
      omega
  exact (counted nonempty).trans (run.taken hs distinct claims).length_le

/-- A claim takes the first slice. -/
theorem one_slice {k : Nat} {whole : List Task}
    (step : Step policy s ⟨.claim worker k now, .tasks whole⟩ s') :
    whole = ((s.queue now).take k).map (State.claimedRow worker now) ∧ s.Taken now whole s' :=
  (State.Taken.refl s now).step hs distinct step rfl

/-- Two claims after each other take two slices after each other. -/
theorem two_slices {worker₁ worker₂ : String} {k₁ k₂ : Nat} {first second : List Task} {s₁ s₂ : State}
    (step₁ : Step policy s ⟨.claim worker₁ k₁ now, .tasks first⟩ s₁)
    (step₂ : Step policy s₁ ⟨.claim worker₂ k₂ now, .tasks second⟩ s₂) :
    first = ((s.queue now).take k₁).map (State.claimedRow worker₁ now) ∧
      second = (((s.queue now).drop k₁).take k₂).map (State.claimedRow worker₂ now) ∧
      s.Taken now (first ++ second) s₂ := by
  obtain ⟨first_eq, taken⟩ := one_slice hs distinct step₁
  obtain ⟨second_eq, taken⟩ := taken.step hs distinct step₂ rfl
  have second_eq : second = (((s.queue now).drop first.length).take k₂).map
      (State.claimedRow worker₂ now) := second_eq
  -- a first claim that gets less than it asks for has emptied the queue
  have rest : (s.queue now).drop first.length = (s.queue now).drop k₁ := by
    rw [first_eq, List.length_map, List.length_take]
    rcases Nat.le_total k₁ (s.queue now).length with enough | short
    · rw [Nat.min_eq_left enough]
    · rw [Nat.min_eq_right short, List.drop_length, List.drop_of_length_le short]
  exact ⟨first_eq, rest ▸ second_eq, taken⟩

/-- Two claims of a worker and one claim of as many. -/
theorem join_slices {k₁ k₂ : Nat} {first second whole : List Task} {s₁ s₂ : State}
    (step₁ : Step policy s ⟨.claim worker k₁ now, .tasks first⟩ s₁)
    (step₂ : Step policy s₁ ⟨.claim worker k₂ now, .tasks second⟩ s₂)
    (step : Step policy s ⟨.claim worker (k₁ + k₂) now, .tasks whole⟩ s') :
    first ++ second = whole ∧ s₂.SameRows s' := by
  obtain ⟨first_eq, second_eq, taken⟩ := two_slices hs distinct step₁ step₂
  obtain ⟨whole_eq, taken'⟩ := one_slice hs distinct step
  have joined : first ++ second = whole := by
    rw [first_eq, second_eq, whole_eq, List.take_add, List.map_append]
  rw [joined] at taken
  exact ⟨joined, taken.sameRows taken' hs⟩

/-- Claims of two workers and one claim of as many by a third. -/
theorem deal_slices {worker₁ worker₂ : String} {k₁ k₂ : Nat} {first second whole : List Task}
    {s₁ s₂ : State} (step₁ : Step policy s ⟨.claim worker₁ k₁ now, .tasks first⟩ s₁)
    (step₂ : Step policy s₁ ⟨.claim worker₂ k₂ now, .tasks second⟩ s₂)
    (step : Step policy s ⟨.claim worker (k₁ + k₂) now, .tasks whole⟩ s') :
    first = (whole.take k₁).map (Task.heldBy worker₁) ∧
      second = (whole.drop k₁).map (Task.heldBy worker₂) ∧
      (∀ id, s₂.find? id = ((first ++ second).find? fun t => t.id = id).or (s'.find? id)) ∧
      s₂.types = s'.types ∧ s₂.edges = s'.edges := by
  obtain ⟨first_eq, second_eq, taken⟩ := two_slices hs distinct step₁ step₂
  obtain ⟨whole_eq, taken'⟩ := one_slice hs distinct step
  have ids : (first ++ second).map (·.id) = whole.map (·.id) := by
    rw [first_eq, second_eq, whole_eq, List.take_add]
    simp only [List.map_append, List.map_map]
    rfl
  refine ⟨?_, ?_, taken.find?_eq_or taken' ids, taken.types.trans taken'.types.symm,
    taken.edges.trans taken'.edges.symm⟩
  -- the worker is overwritten, so the rows of the whole batch may belong to any
  · rw [first_eq, whole_eq, ← List.map_take, List.take_take, Nat.min_eq_left (Nat.le_add_right _ _),
      List.map_map]
    rfl
  · rw [second_eq, whole_eq, ← List.map_drop, List.drop_take, Nat.add_sub_cancel_left,
      List.map_map]
    rfl

end

/-! ### What is promised -/

/-- What is promised of claims at an instant, from the given rows on. -/
structure ClaimsSplit (policy : Backoff.Policy) (s : State) (now : Timestamp) : Prop where
  /-- A claim is always served. -/
  served : ∀ s₀ worker limit, ∃ batch s₁, Step policy s₀ ⟨.claim worker limit now, .tasks batch⟩ s₁
  /-- Two claims of a worker do what one claim of as many tasks does. -/
  same_worker : ∀ {worker k₁ k₂ first second whole s₁ s₂ s'},
    Step policy s ⟨.claim worker k₁ now, .tasks first⟩ s₁ →
    Step policy s₁ ⟨.claim worker k₂ now, .tasks second⟩ s₂ →
    Step policy s ⟨.claim worker (k₁ + k₂) now, .tasks whole⟩ s' →
    first ++ second = whole ∧ s₂.SameRows s'
  /-- Claims of two workers do the same, but for the worker who has a task. -/
  two_workers : ∀ {worker₁ worker₂ worker k₁ k₂ first second whole s₁ s₂ s'},
    Step policy s ⟨.claim worker₁ k₁ now, .tasks first⟩ s₁ →
    Step policy s₁ ⟨.claim worker₂ k₂ now, .tasks second⟩ s₂ →
    Step policy s ⟨.claim worker (k₁ + k₂) now, .tasks whole⟩ s' →
    first = (whole.take k₁).map (Task.heldBy worker₁) ∧
      second = (whole.drop k₁).map (Task.heldBy worker₂) ∧
      (∀ id, s₂.find? id = ((first ++ second).find? fun t => t.id = id).or (s'.find? id)) ∧
      s₂.types = s'.types ∧ s₂.edges = s'.edges
  /-- Any claims, made until one returns nothing, share out the claimable tasks: each one is in
  exactly one batch. -/
  shared_out : ∀ {history s'}, Run policy s history s' → ClaimsAt now history →
    (∃ x ∈ history, x.batch = []) →
    ((history.flatMap Exchange.batch).map (·.id)).Perm
      ((s.tasks.filter fun t => s.Claimable now t).map (·.id))
  /-- What a worker gets is a task that was claimable at the start, in its hands. -/
  handed : ∀ {history s' x worker limit}, Run policy s history s' → ClaimsAt now history →
    x ∈ history → x.call = .claim worker limit now →
    ∀ row ∈ x.batch, ∃ t ∈ s.tasks, s.Claimable now t ∧ row = State.claimedRow worker now t
  /-- One of the claims returns nothing as soon as there were more claims than claimable tasks. -/
  ends : ∀ {history s'}, Run policy s history s' → ClaimsAt now history →
    s.claimableCount now < history.length → ∃ x ∈ history, x.batch = []

/-- **Claims split.** In every run, if no two of the tasks that are claimable at an instant share a
key, claims made at this instant can be split and joined: two claims return the tasks that one claim
of as many returns, in the same order, and leave the same rows, but for the worker in whose hands a
task is. So any claims share out the claimable tasks among themselves, whichever workers make them and
in whatever order rows are visited. -/
theorem claims_split (run : Run policy {} history s) (distinct : s.KeysDistinct now) :
    ClaimsSplit policy s now := by
  have hs := run.keyed keyed_empty
  have claimable : (s.queue now).Perm (s.tasks.filter fun t => s.Claimable now t) := by
    refine State.perm_queue_claimable fun t ht => ?_
    exact run.exists_type ((State.find?_eq_some_iff hs).2 ⟨ht, rfl⟩)
  have keys : ((s.queue now).map Task.claimKey).Nodup := (claimable.map _).nodup_iff.2 distinct
  constructor
  case served =>
    intro s₀ worker limit
    exact ⟨_, _, .of_serve rfl trivial⟩
  case same_worker =>
    intro worker k₁ k₂ first second whole s₁ s₂ s' step₁ step₂ step
    exact join_slices hs keys step₁ step₂ step
  case two_workers =>
    intro worker₁ worker₂ worker k₁ k₂ first second whole s₁ s₂ s' step₁ step₂ step
    exact deal_slices hs keys step₁ step₂ step
  case shared_out =>
    rintro history s' claims_run claims ⟨x, hx, empty⟩
    rw [claims_run.ids_of_empty hs keys claims hx empty]
    exact claimable.map _
  case handed =>
    intro history s' x worker limit claims_run claims hx call row hrow
    obtain ⟨n, -, batch_eq⟩ := claims_run.batch_eq hs keys claims hx call
    rw [batch_eq] at hrow
    obtain ⟨t, ht, rfl⟩ := List.mem_map.1 hrow
    have queued := claimable.mem_iff.1 (List.mem_of_mem_drop (List.mem_of_mem_take ht))
    obtain ⟨stored, may⟩ := List.mem_filter.1 queued
    exact ⟨t, stored, of_decide_eq_true may, rfl⟩
  case ends =>
    intro history s' claims_run claims many
    by_contra none_empty
    have nonempty : ∀ x ∈ history, x.batch ≠ [] := fun x hx empty => none_empty ⟨x, hx, empty⟩
    have bound := claims_run.length_le hs keys claims nonempty
    rw [claimable.length_eq, ← List.countP_eq_length_filter] at bound
    exact absurd many (Nat.not_lt.2 bound)

/-- Four tasks can be claimed an hour later: two with priorities, one that failed once, and the first
of a chain. Its successor waits, and another task is in the hands of a worker. -/
def splitCalls : List Call :=
  [.upsertType ⟨"mail", 2, 5, none⟩ .epoch,
    .enqueue { taskType := "mail", payload := .null, priority := 5 } ⟨1⟩ .epoch,
    .claim "a" 1 .epoch, .start ⟨1⟩ .epoch, .fail ⟨1⟩ "refused" .epoch,
    .enqueue { taskType := "mail", payload := .null, priority := 9 } ⟨2⟩ .epoch,
    .claim "a" 1 .epoch,
    .enqueue { taskType := "mail", payload := .null, priority := 3 } ⟨3⟩ .epoch,
    .enqueue { taskType := "mail", payload := .null, priority := 9 } ⟨4⟩ .epoch,
    .createChain [{ taskType := "mail", payload := .null }, { taskType := "mail", payload := .null }]
      [⟨5⟩, ⟨6⟩] .epoch]

theorem claims_split_of_four : ∃ history s, Run {} {} history s ∧ s.KeysDistinct hourLater ∧
    s.claimableCount hourLater = 4 ∧ ClaimsSplit {} s hourLater := by
  have run : Run {} {} (replay {} {} splitCalls).1 (replay {} {} splitCalls).2 :=
    run_replay (by decide +kernel)
  have distinct : (replay {} {} splitCalls).2.KeysDistinct hourLater := by decide +kernel
  exact ⟨_, _, run, distinct, by decide +kernel, claims_split run distinct⟩

end Memory

end WorkQueue
