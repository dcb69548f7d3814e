import WorkQueue.Proofs.Database.Agreement
import WorkQueue.Proofs.Listing.Counts

/-!
# Counting in a database

A database answers with rows of a status and a count, in any order; a status may have several rows. The
metrics that they add up to depend on neither. They are added up in words of 64 bits, and no step leaves
the words if the whole sum is a word.

## Main definitions

* `Metrics.ofCountsInWords?`: metrics added up step by step
* `Metrics.Regrouped`: the same counts in other rows
* `Database.CountsRows`: what is promised of the metrics of such rows

## Main statements

* `Metrics.ofCountsInWords?_eq`: no step leaves the words
* `Metrics.Regrouped.ofCounts_eq`: rows may be reordered, split and merged
* `Database.metrics_agree`: the metrics of either storage agree with what is stored
-/

namespace WorkQueue

namespace Metrics

open IntRange

variable {m : Metrics} {counts counts' : List (Status × Int)}

/-! ### Adding up in words -/

/-- Adds tasks of a status: nothing, if their count or the total is not a word afterwards. -/
def addInWords? (m : Metrics) (status : Status) (n : Int) : Option Metrics := do
  let _ ← int64.keep? (m.count status + n)
  let _ ← int64.keep? (m.total + n)
  return m.add status n

def ofCountsInWords? (counts : List (Status × Int)) : Option Metrics :=
  counts.foldlM (fun m row => m.addInWords? row.1 row.2) {}

/-- No count is negative, and none exceeds the total. -/
def Bounded (m : Metrics) : Prop := ∀ status, 0 ≤ m.count status ∧ m.count status ≤ m.total

theorem Bounded.add (bounded : m.Bounded) (added : Status) {n : Int} (nonneg : 0 ≤ n) :
    (m.add added n).Bounded := by
  intro status
  have bound := bounded status
  rw [count_add, total_add]
  split <;> omega

theorem Bounded.addInWords?_eq (bounded : m.Bounded) (added : Status) {n : Int} (nonneg : 0 ≤ n)
    (word : m.total + n ≤ int64.hi) : m.addInWords? added n = some (m.add added n) := by
  have bound := bounded added
  have least : int64.lo ≤ 0 := by decide
  have slot : int64.keep? (m.count added + n) = some (m.count added + n) :=
    keep?_eq_some_iff.2 ⟨rfl, by omega, by omega⟩
  have total : int64.keep? (m.total + n) = some (m.total + n) :=
    keep?_eq_some_iff.2 ⟨rfl, by omega, word⟩
  rw [addInWords?, slot, total]
  rfl

/-- No step leaves the words, if the sum of all counts is a word. -/
theorem foldlM_addInWords? (bounded : m.Bounded) (nonneg : ∀ row ∈ counts, 0 ≤ row.2)
    (word : m.total + (counts.map (·.2)).sum ≤ int64.hi) :
    counts.foldlM (fun m row => m.addInWords? row.1 row.2) m =
      some (counts.foldl (fun m row => m.add row.1 row.2) m) := by
  induction counts generalizing m with
  | nil => rfl
  | cons row counts ih =>
    obtain ⟨row_nonneg, rest_nonneg⟩ := List.forall_mem_cons.1 nonneg
    have sum_nonneg : 0 ≤ (counts.map (·.2)).sum :=
      List.sum_nonneg fun n hn => by
        obtain ⟨other, mem, rfl⟩ := List.mem_map.1 hn
        exact rest_nonneg other mem
    rw [List.map_cons, List.sum_cons] at word
    have first := bounded.addInWords?_eq row.1 row_nonneg (by omega)
    have rest := ih (bounded.add row.1 row_nonneg) rest_nonneg (by rw [total_add]; omega)
    rw [List.foldlM_cons, first]
    exact rest

theorem ofCountsInWords?_eq (nonneg : ∀ row ∈ counts, 0 ≤ row.2)
    (word : (counts.map (·.2)).sum ≤ int64.hi) :
    ofCountsInWords? counts = some (ofCounts counts) := by
  have bounded : ({} : Metrics).Bounded := fun status => by cases status <;> decide
  exact foldlM_addInWords? bounded nonneg ((Int.zero_add _).le.trans word)

/-! ### Other rows with the same counts -/

/-- The same counts in other rows: in another order, and with rows split or merged. -/
inductive Regrouped : List (Status × Int) → List (Status × Int) → Prop where
  | reorder {rows rows' : List (Status × Int)} (perm : rows.Perm rows') : Regrouped rows rows'
  | split (status : Status) (a b : Int) (rest : List (Status × Int)) :
      Regrouped ((status, a + b) :: rest) ((status, a) :: (status, b) :: rest)
  | symm {rows rows' : List (Status × Int)} (h : Regrouped rows rows') : Regrouped rows' rows
  | trans {rows₁ rows₂ rows₃ : List (Status × Int)} (first : Regrouped rows₁ rows₂)
      (second : Regrouped rows₂ rows₃) : Regrouped rows₁ rows₃

theorem Regrouped.ofCounts_eq (h : Regrouped counts counts') : ofCounts counts = ofCounts counts' := by
  induction h with
  | reorder perm => exact ofCounts_perm perm
  | split status a b rest =>
    refine ofCounts_eq_iff.2 fun other => ?_
    simp only [sumOf_cons]
    split <;> omega
  | symm _ ih => exact ih.symm
  | trans _ _ ih₁ ih₂ => exact ih₁.trans ih₂

theorem Regrouped.sum_eq (h : Regrouped counts counts') :
    (counts.map (·.2)).sum = (counts'.map (·.2)).sum := by
  rw [← total_ofCounts, h.ofCounts_eq, total_ofCounts]

end Metrics

namespace Database

open Session Simulation IntRange

variable {answers : Answers} {counts : List (Status × Int)}

theorem Answers.eval_rows_bind {α : Type} {s : Statement} {rows : List s.Row}
    (h : answers s = .ok rows) (f : List s.Row → Fallible α) (w : World) :
    answers.eval (attempt (Session.rows s) >>= f) w = answers.eval (f rows) w := by
  have answered : answers.eval (attempt (Session.rows s)) w =
    ((answers s).mapError Trouble.toFailure, w) := rfl
  rw [eval_bind, answered, h]
  rfl

/-- Every stored name is read as its status. -/
theorem mapM_toStatus (counts : List (Status × Int)) :
    (counts.map fun row => (row.1.name, row.2)).mapM
      (fun (name, n) => (toStatus name).map fun status => (status, n)) = .ok counts := by
  rw [Memory.mapM_eq_ok_iff, List.forall₂_map_left_iff, List.forall₂_same]
  intro row _
  show (toStatus row.1.name).map _ = _
  rw [toStatus_name]
  rfl

/-- The metrics are added up from the counted rows. -/
theorem Answers.eval_metrics
    (h : answers .countStatuses = .ok (counts.map fun row => (row.1.name, row.2))) (w : World) :
    answers.eval metrics w = (.ok (.ofCounts counts), w) :=
  (eval_rows_bind h _ w).trans (eval_lift_bind (mapM_toStatus counts) _)

/-- What is promised of the metrics of counted rows, and of other rows with the same counts. -/
structure CountsRows (counts counts' : List (Status × Int)) : Prop where
  count : ∀ status, (Metrics.ofCounts counts).count status = Metrics.sumOf status counts
  total : (Metrics.ofCounts counts).total = (counts.map (·.2)).sum
  rate : (Metrics.ofCounts counts).Rated
  same : Metrics.ofCounts counts' = .ofCounts counts
  /-- Neither leaves the words while it is added up. -/
  words : Metrics.ofCountsInWords? counts = some (.ofCounts counts)
  words' : Metrics.ofCountsInWords? counts' = some (.ofCounts counts)
  /-- Whichever rows a database answers with, the result is the same. -/
  answered : ∀ (answers : Answers) (w : World),
    answers .countStatuses = .ok (counts.map fun row => (row.1.name, row.2)) ∨
      answers .countStatuses = .ok (counts'.map fun row => (row.1.name, row.2)) →
    answers.eval metrics w = (.ok (.ofCounts counts), w)

theorem countsRows {counts' : List (Status × Int)} (regrouped : Metrics.Regrouped counts counts')
    (nonneg : ∀ row ∈ counts, 0 ≤ row.2) (nonneg' : ∀ row ∈ counts', 0 ≤ row.2)
    (word : (counts.map (·.2)).sum ≤ int64.hi) : CountsRows counts counts' where
  count := Metrics.count_ofCounts counts
  total := Metrics.total_ofCounts counts
  rate := by
    refine Metrics.rated (fun status => ?_) (Metrics.balanced_ofCounts counts)
    rw [Metrics.count_ofCounts]
    refine List.sum_nonneg fun n hn => ?_
    obtain ⟨row, mem, rfl⟩ := List.mem_map.1 hn
    exact nonneg row (List.mem_filter.1 mem).1
  same := regrouped.ofCounts_eq.symm
  words := Metrics.ofCountsInWords?_eq nonneg word
  words' := by
    rw [regrouped.sum_eq] at word
    rw [regrouped.ofCounts_eq]
    exact Metrics.ofCountsInWords?_eq nonneg' word
  answered answers w rows := by
    rcases rows with rows | rows
    · exact Answers.eval_metrics rows w
    · rw [regrouped.ofCounts_eq]
      exact Answers.eval_metrics rows w

/-- **Metrics agree with what is stored.** In every run of a storage in memory they agree with all
listings, in whatever order rows are visited, and the total is the number of tasks created so far. Those
of a database do not depend on how its counts are grouped, as long as their sum is a word. -/
theorem metrics_agree :
    (∀ (policy : Backoff.Policy) (history : List Memory.Exchange) (s : Memory.State),
      Memory.Run policy {} history s → Memory.CountsListings policy history s) ∧
    ∀ counts counts' : List (Status × Int), Metrics.Regrouped counts counts' →
      (∀ row ∈ counts, 0 ≤ row.2) → (∀ row ∈ counts', 0 ≤ row.2) →
      (counts.map (·.2)).sum ≤ int64.hi → CountsRows counts counts' :=
  ⟨fun _ _ _ run => run.countsListings, fun _ _ => countsRows⟩

/-- Five tasks, of which one waits for another attempt; and counts that a database answers with in two
rows or in three. -/
theorem metrics_agree_of_mixed :
    (∃ history s, Memory.Run {} {} history s ∧ s.metrics.total = 5 ∧ s.metrics.count .failed = 1 ∧
      Memory.CountsListings {} history s) ∧
    CountsRows [(.failed, 2), (.pending, 3)] [(.pending, 1), (.failed, 2), (.pending, 2)] := by
  have run : Memory.Run {} {} (Memory.replay {} {} Memory.mixedCalls).1
      (Memory.replay {} {} Memory.mixedCalls).2 := Memory.run_replay (by decide +kernel)
  have regrouped : Metrics.Regrouped [(.failed, 2), (.pending, 3)]
      [(.pending, 1), (.failed, 2), (.pending, 2)] :=
    (Metrics.Regrouped.reorder (.swap _ _ _)).trans
      ((Metrics.Regrouped.split .pending 1 2 [(.failed, 2)]).trans (.reorder (.cons _ (.swap _ _ _))))
  exact ⟨⟨_, _, run, by decide +kernel, by decide +kernel, metrics_agree.1 _ _ _ run⟩,
    metrics_agree.2 _ _ regrouped (by decide) (by decide) (by decide)⟩

end Database

end WorkQueue
