import WorkQueue.Proofs.Memory.Consistency
import Mathlib.Data.Prod.Lex
import Mathlib.Data.Option.Basic
import Mathlib.Order.Lattice

/-!
# Batches of claimed tasks

A claim filters the stored rows, sorts them, takes the first few and rewrites them. Here it is
described without any of these steps: how many tasks it returns, which ones, in what order, and what
becomes of the rows. The order in which rows are visited decides only between tasks with equal keys.

## Main definitions

* `Task.claimKey`: the key by which tasks are claimed, as an element of a linear order
* `Memory.State.Claimable`: which stored tasks a claim may take
* `Memory.ClaimMeets`: what is promised of a claim

## Main statements

* `Memory.claim_meets`: every claim keeps the promise
-/

namespace WorkQueue

/-! ### The order of claims -/

instance : LinearOrder Timestamp where
  le_refl := Timestamp.le_refl
  le_trans a b c := by
    simp only [Timestamp.le_iff]
    omega
  le_antisymm a b := by
    intro hab hba
    rw [Timestamp.le_iff] at hab hba
    have second_eq : a.second = b.second := by omega
    have nano_eq : a.nano = b.nano := by omega
    cases a
    cases b
    cases second_eq
    cases nano_eq
    rfl
  le_total a b := by
    simp only [Timestamp.le_iff]
    omega
  lt_iff_le_not_ge a b := by
    simp only [Timestamp.le_iff, Timestamp.lt_iff]
    omega
  toDecidableLE := inferInstance
  toDecidableLT := inferInstance

/-- Sorting by a key puts the keys in order. -/
theorem pairwise_mergeSort_key {α β : Type} [LinearOrder β] (key : α → β) (l : List α) :
    (l.mergeSort fun a b => decide (key a ≤ key b)).Pairwise fun a b => key a ≤ key b := by
  have trans : ∀ a b c : α, decide (key a ≤ key b) → decide (key b ≤ key c) →
      decide (key a ≤ key c) := by
    intro a b c hab hbc
    rw [decide_eq_true_eq] at hab hbc ⊢
    exact hab.trans hbc
  have total : ∀ a b : α, decide (key a ≤ key b) || decide (key b ≤ key a) := by
    intro a b
    rw [Bool.or_eq_true, decide_eq_true_eq, decide_eq_true_eq]
    exact le_total _ _
  refine (List.pairwise_mergeSort trans total l).imp ?_
  intro a b h
  exact of_decide_eq_true h

namespace Task

variable {a b t : Task}

/-- The key of a task in claim order: priority from high to low, then the instant from which it is
claimable, then its creation. -/
def claimKey (t : Task) : Intᵒᵈ ×ₗ Timestamp ×ₗ Timestamp :=
  toLex (OrderDual.toDual t.priority, toLex (t.readyAt, t.createdAt))

theorem claimsBefore_iff : a.claimsBefore b ↔ a.claimKey < b.claimKey := by
  simp [claimsBefore, claimKey, Prod.Lex.toLex_lt_toLex]

/-- Sorting compares keys and nothing else. -/
theorem sortForClaim_eq (tasks : List Task) :
    sortForClaim tasks = tasks.mergeSort fun a b => decide (a.claimKey ≤ b.claimKey) := by
  have compared : (fun a b : Task => !claimsBefore b a) =
      fun a b => decide (a.claimKey ≤ b.claimKey) := by
    funext a b
    rw [Bool.eq_iff_iff]
    simp [← Bool.not_eq_true, claimsBefore_iff]
  rw [sortForClaim, compared]

theorem perm_sortForClaim (tasks : List Task) : (sortForClaim tasks).Perm tasks :=
  List.mergeSort_perm _ _

theorem pairwise_sortForClaim (tasks : List Task) :
    (sortForClaim tasks).Pairwise fun a b => a.claimKey ≤ b.claimKey := by
  rw [sortForClaim_eq]
  exact pairwise_mergeSort_key claimKey tasks

end Task

namespace Memory

variable {policy : Backoff.Policy} {s : State} {history : List Exchange} {t : Task} {now : Timestamp}
  {worker : String} {limit : Nat}

/-! ### Claimable tasks -/

namespace State

instance (s : State) (id : Uuid) : Decidable (s.Completed id) :=
  decidable_of_iff ((s.find? id).any fun t => t.status = .completed) (by
    simp [Completed, Option.any_eq_true])

/-- A claim at an instant may take the task: it is pending and its schedule is reached, or it failed
and is not exhausted, its retry instant is reached and its type allows more attempts; and all its
prerequisites are completed. -/
structure Claimable (s : State) (now : Timestamp) (t : Task) : Prop where
  due : t.status = .pending ∧ t.scheduledFor ≤ now ∨
    t.status = .failed ∧ ¬ t.retriesExhausted ∧ (∃ retry ∈ t.nextAttemptAt, retry ≤ now) ∧
      ∃ type ∈ s.findType? t.taskType, t.attempts < type.maxAttempts
  released : ∀ e ∈ s.edges, e.task = t.id → s.Completed e.prerequisite

instance (s : State) (now : Timestamp) (t : Task) : Decidable (s.Claimable now t) :=
  decidable_of_iff (_ ∧ _) ⟨fun h => ⟨h.1, h.2⟩, fun h => ⟨h.due, h.released⟩⟩

/-- The number of stored tasks that a claim may take. -/
def claimableCount (s : State) (now : Timestamp) : Nat :=
  s.tasks.countP fun t => s.Claimable now t

/-- For a row of a known type, the test made by a claim decides `Claimable`. -/
theorem isClaimable_iff_claimable (known : ∃ type, s.findType? t.taskType = some type) :
    s.isClaimable now t ↔ s.Claimable now t := by
  obtain ⟨type, known⟩ := known
  rw [isClaimable_iff]
  constructor
  · rintro ⟨type', known', pending | ⟨failed, unstamped, left, retry, waits, reached⟩, released⟩
    · exact ⟨.inl pending, released⟩
    · refine ⟨.inr ⟨failed, ?_, ⟨retry, waits, reached⟩, type', known', left⟩, released⟩
      simp [Task.retriesExhausted, unstamped]
  · rintro ⟨pending | ⟨failed, open_, ⟨retry, waits, reached⟩, type', known', left⟩, released⟩
    · exact ⟨type, known, .inl pending, released⟩
    · have unstamped : t.completedAt = none := by
        simpa [Task.retriesExhausted, failed] using open_
      exact ⟨type', known', .inr ⟨failed, unstamped, left, retry, waits, reached⟩, released⟩

end State

/-! ### What is promised -/

/-- What is promised of a claim on stored rows: `taken` are the rows before it, in the order in which
they are returned, and `result` is what the claim returns with the rows after it. -/
structure ClaimMeets (s : State) (worker : String) (limit : Nat) (now : Timestamp)
    (taken : List Task) (result : List Task × State) : Prop where
  /-- As many as are allowed and can be had. -/
  length_eq : taken.length = min limit (s.claimableCount now)
  claimable : ∀ t ∈ taken, t ∈ s.tasks ∧ s.Claimable now t
  nodup : (taken.map (·.id)).Nodup
  ordered : taken.Pairwise fun a b => a.claimKey ≤ b.claimKey
  /-- Nothing is left out in favour of a task that comes after it. -/
  first : ∀ t ∈ s.tasks, s.Claimable now t → t ∉ taken → ∀ a ∈ taken, ¬ t.claimKey < a.claimKey
  returned : result.1 = taken.map fun t =>
    { t with
      status := .claimed
      claimedBy := some worker
      nextAttemptAt := none
      updatedAt := now }
  /-- Returned rows are stored; under every other identifier is what was there before. -/
  rows : ∀ id, result.2.find? id = (result.1.find? fun t => t.id = id).or (s.find? id)
  ids : (result.2.tasks.map (·.id)).Perm (s.tasks.map (·.id))
  types : result.2.types = s.types
  edges : result.2.edges = s.edges

/-! ### Claims keep the promise -/

namespace State

/-- The first few of a sorted list, and any element that is not among them. -/
theorem le_of_notMem_take {α β : Type} [LinearOrder β] {key : α → β} {sorted : List α} {n : Nat}
    {a b : α} (ordered : sorted.Pairwise fun a b => key a ≤ key b) (ha : a ∈ sorted.take n)
    (hb : b ∈ sorted) (out : b ∉ sorted.take n) : key a ≤ key b := by
  rw [← List.take_append_drop n sorted] at ordered hb
  have later : b ∈ sorted.drop n := (List.mem_append.1 hb).resolve_left out
  exact (List.pairwise_append.1 ordered).2.2 a ha b later

/-- Replacing rows that are stored, one for each identifier. -/
theorem find?_foldl_put_eq {ts : List Task} (hts : (ts.map (·.id)).Nodup)
    (stored : ∀ t ∈ ts, (s.find? t.id).isSome) (id : Uuid) :
    (ts.foldl put s).find? id = (ts.find? fun t => t.id = id).or (s.find? id) := by
  cases found : ts.find? fun t => t.id = id with
  | none =>
    have out : id ∉ ts.map (·.id) := by simpa using found
    rw [find?_foldl_put_of_notMem out, Option.none_or]
  | some t =>
    have ht : t ∈ ts := List.mem_of_find?_eq_some found
    obtain rfl : t.id = id := by simpa using List.find?_some found
    obtain ⟨old, before⟩ := Option.isSome_iff_exists.1 (stored t ht)
    rw [find?_foldl_put hts ht before, Option.some_or]

/-- The rows that a claim returns are stored, and all others stay. -/
theorem find?_claim (hs : s.Keyed) (id : Uuid) : (s.claim worker limit now).2.find? id =
    ((s.claim worker limit now).1.find? fun t => t.id = id).or (s.find? id) := by
  rw [claim_snd]
  refine find?_foldl_put_eq ?_ ?_ id
  · rw [ids_claim]
    exact nodup_candidates hs
  · intro t ht
    obtain ⟨old, found, -⟩ := mem_claim hs ht
    rw [found]
    rfl

/-- The candidates for a claim, when the types of all rows are known. -/
theorem candidates_meet (hs : s.Keyed)
    (known : ∀ t ∈ s.tasks, ∃ type, s.findType? t.taskType = some type) :
    ClaimMeets s worker limit now (s.candidates limit now) (s.claim worker limit now) where
  length_eq := by
    rw [candidates, List.length_take, (Task.perm_sortForClaim _).length_eq, claimableCount,
      List.countP_eq_length_filter]
    congr 2
    refine List.filter_congr fun t ht => ?_
    rw [Bool.eq_iff_iff, isClaimable_iff_claimable (known t ht), decide_eq_true_eq]
  claimable t ht := by
    obtain ⟨stored, claimable⟩ := mem_candidates ht
    exact ⟨stored, (isClaimable_iff_claimable (known t stored)).1 claimable⟩
  nodup := nodup_candidates hs
  ordered := (Task.pairwise_sortForClaim _).sublist (List.take_sublist _ _)
  first t ht claimable out a ha := by
    have sorted : t ∈ Task.sortForClaim (s.tasks.filter (s.isClaimable now)) :=
      (Task.perm_sortForClaim _).mem_iff.2
        (List.mem_filter.2 ⟨ht, (isClaimable_iff_claimable (known t ht)).2 claimable⟩)
    exact not_lt.2 (le_of_notMem_take (Task.pairwise_sortForClaim _) ha sorted out)
  returned := rfl
  rows := find?_claim hs
  ids := by rw [claim_snd, ids_foldl_put]
  types := foldl_put_types _ _
  edges := foldl_put_edges _ _

theorem claimable_visiting (hs : s.Keyed) {order : List Task} (perm : order.Perm s.tasks) :
    (s.visiting order).Claimable now t ↔ s.Claimable now t := by
  constructor
  · rintro ⟨due, released⟩
    refine ⟨due, fun e he htask => ?_⟩
    simpa only [Completed, find?_visiting hs perm] using released e he htask
  · rintro ⟨due, released⟩
    refine ⟨due, fun e he htask => ?_⟩
    simpa only [Completed, find?_visiting hs perm] using released e he htask

end State

/-- The promise does not depend on the order in which rows are visited. -/
theorem ClaimMeets.of_visiting (hs : s.Keyed) {order taken : List Task} {result : List Task × State}
    (perm : order.Perm s.tasks)
    (h : ClaimMeets (s.visiting order) worker limit now taken result) :
    ClaimMeets s worker limit now taken result where
  length_eq := by
    have counted : (s.visiting order).claimableCount now = s.claimableCount now := by
      simp only [State.claimableCount, State.claimable_visiting hs perm]
      exact perm.countP_eq _
    rw [h.length_eq, counted]
  claimable t ht := by
    obtain ⟨stored, claimable⟩ := h.claimable t ht
    exact ⟨perm.mem_iff.1 stored, (State.claimable_visiting hs perm).1 claimable⟩
  nodup := h.nodup
  ordered := h.ordered
  first t ht claimable :=
    h.first t (perm.mem_iff.2 ht) ((State.claimable_visiting hs perm).2 claimable)
  returned := h.returned
  rows id := by rw [h.rows, State.find?_visiting hs perm]
  ids := h.ids.trans (perm.map _)
  types := h.types
  edges := h.edges

/-- In every run, a claim by any worker, up to any limit and at any instant keeps the promise, in
whatever order it visits the rows. -/
theorem claim_meets (run : Run policy {} history s) {order : List Task}
    (perm : order.Perm s.tasks) (worker : String) (limit : Nat) (now : Timestamp) :
    ∃ taken, ClaimMeets s worker limit now taken ((s.visiting order).claim worker limit now) := by
  have hs : s.Keyed := run.keyed keyed_empty
  have known : ∀ t ∈ order, ∃ type, s.findType? t.taskType = some type := by
    intro t ht
    exact run.exists_type ((State.find?_eq_some_iff hs).2 ⟨perm.mem_iff.1 ht, rfl⟩)
  exact ⟨_, .of_visiting hs perm (State.candidates_meet (hs.visiting perm) known)⟩

/-- One task waits for its second attempt and two are new and equal; one of higher priority waits for
a task that is not completed, and one is scheduled for later. -/
def mixedCalls : List Call :=
  [.upsertType ⟨"mail", 2, 5, none⟩ .epoch,
    .enqueue { taskType := "mail", payload := .null, priority := 5 } ⟨1⟩ .epoch,
    .claim "a" 1 .epoch, .start ⟨1⟩ .epoch, .fail ⟨1⟩ "refused" .epoch,
    .createChain [{ taskType := "mail", payload := .null },
      { taskType := "mail", payload := .null, priority := 9 }] [⟨2⟩, ⟨3⟩] .epoch,
    .enqueue { taskType := "mail", payload := .null } ⟨4⟩ .epoch,
    .enqueue { taskType := "mail", payload := .null, scheduledFor := some .latest } ⟨5⟩ .epoch]

/-- An hour after the start of 1970. -/
def hourLater : Timestamp := Timestamp.epoch.addNanos 3600000000000

theorem claim_meets_of_mixed : ∃ history s, Run {} {} history s ∧
    s.tasks.reverse.Perm s.tasks ∧ s.claimableCount hourLater = 3 ∧
    ∃ taken, ClaimMeets s "b" 2 hourLater taken
      ((s.visiting s.tasks.reverse).claim "b" 2 hourLater) := by
  have run : Run {} {} (replay {} {} mixedCalls).1 (replay {} {} mixedCalls).2 :=
    run_replay (by decide +kernel)
  exact ⟨_, _, run, List.reverse_perm _, by decide +kernel,
    claim_meets run (List.reverse_perm _) "b" 2 hourLater⟩

end Memory

end WorkQueue
