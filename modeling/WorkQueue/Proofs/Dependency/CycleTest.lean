import WorkQueue.Proofs.Dependency.Reachability
import Mathlib.Data.List.Chain
import Mathlib.Data.List.Nodup

/-!
# The test for cycles

The test made before an insertion is a search with a queue and a set of visited nodes. A node may
join the queue several times, and is marked as visited only when it leaves it. The search ends all
the same, on graphs with cycles too: every round takes a node from the queue, and an edge brings a
node into it at most once. The verdict is whether the new edge would lie on a cycle, and does not
depend on the order of the edges or on how often each of them is stored.

## Main definitions

* `Dependency.Frontier`, `Dependency.Frontier.round`: where the search stands, and one round of it
* `Dependency.Frontier.verdict?`: the verdict after a number of rounds
* `Dependency.OnCycle`: an edge of a cycle
* `Dependency.DecidesCycle`: what is promised of the test

## Main statements

* `Dependency.Frontier.verdict?_eq_search`: how many rounds the search takes at most
* `Dependency.onCycle_concat_iff`: when a further edge lies on a cycle
* `Dependency.cycle_test_decides`: the test keeps its promise
-/

namespace WorkQueue.Dependency

open Relation (ReflTransGen)

variable {edges edges' : List Dependency} {e : Dependency} {a b goal node : Uuid}
  {visited unexpanded queue : List Uuid} {n : Nat}

/-! ### Rounds of the search -/

/-- Where the search stands: the nodes that it has visited, and those that wait in its queue. -/
structure Frontier where
  visited : List Uuid
  queue : List Uuid

namespace Frontier

/-- One round of the search: a verdict, or where it stands afterwards. -/
def round (edges : List Dependency) (goal : Uuid) : Frontier → Bool ⊕ Frontier
  | ⟨_, []⟩ => .inl false
  | ⟨visited, node :: rest⟩ =>
    if node = goal then .inl true
    else if node ∈ visited then .inr ⟨visited, rest⟩
    else .inr ⟨node :: visited, rest ++ prerequisitesOf edges node⟩

/-- The verdict, if the search comes to one within a number of rounds. -/
def verdict? (edges : List Dependency) (goal : Uuid) : Nat → Frontier → Option Bool
  | 0, _ => none
  | n + 1, f =>
    match f.round edges goal with
    | .inl verdict => some verdict
    | .inr next => verdict? edges goal n next

/-- How many edges start at nodes that have not been visited. -/
def ahead (edges : List Dependency) (visited : List Uuid) : Nat :=
  edges.countP fun e => e.task ∉ visited

/-- Visiting a node moves its edges from those ahead into the queue. -/
theorem ahead_visit (edges : List Dependency) (new : node ∉ visited) :
    (prerequisitesOf edges node).length + ahead edges (node :: visited) = ahead edges visited := by
  unfold prerequisitesOf ahead
  induction edges with
  | nil => rfl
  | cons e edges ih =>
    by_cases own : e.task = node
    · have out : e.task ∉ visited := own ▸ new
      simp only [List.length_map, List.filter_cons, List.countP_cons, own, new, decide_true,
        List.mem_cons_self, not_true_eq_false, decide_false, not_false_eq_true, if_true,
        List.length_cons, Bool.false_eq_true, if_false] at ih ⊢
      omega
    · simp only [List.length_map, List.filter_cons, List.countP_cons, own, List.mem_cons,
        false_or, decide_false, Bool.false_eq_true, if_false] at ih ⊢
      omega

theorem prerequisitesOf_eq_nil (h : ∀ b, ¬ WaitsFor edges node b) :
    prerequisitesOf edges node = [] := by
  apply List.eq_nil_iff_forall_not_mem.2
  intro b hb
  exact h b (mem_prerequisitesOf.1 hb)

/-- Each round lowers the number of queued nodes and edges ahead by one, so the search ends within
that many rounds and one more. -/
theorem verdict?_eq_search
    (same : ∀ a, a ∈ unexpanded ↔ (∃ b, WaitsFor edges a b) ∧ a ∉ visited)
    (bound : queue.length + ahead edges visited < n) :
    verdict? edges goal n ⟨visited, queue⟩ = some (search edges goal unexpanded queue) := by
  fun_induction search edges goal unexpanded queue generalizing visited n with
  | case1 =>
    obtain ⟨n, rfl⟩ : ∃ k, n = k + 1 := ⟨n - 1, by omega⟩
    rfl
  | case2 =>
    obtain ⟨n, rfl⟩ : ∃ k, n = k + 1 := ⟨n - 1, by omega⟩
    simp [verdict?, round]
  | case3 unexpanded node rest ne open_ ih =>
    obtain ⟨n, rfl⟩ : ∃ k, n = k + 1 := ⟨n - 1, by omega⟩
    have new : node ∉ visited := ((same node).1 open_).2
    have moved := ahead_visit edges new
    rw [List.length_cons] at bound
    simp only [verdict?, round, ne, new, if_false]
    apply ih
    · intro a
      simp only [without, List.mem_filter, same, List.mem_cons, not_or, decide_eq_true_eq]
      tauto
    · rw [List.length_append]
      omega
  | case4 unexpanded node rest ne closed ih =>
    obtain ⟨n, rfl⟩ : ∃ k, n = k + 1 := ⟨n - 1, by omega⟩
    rw [List.length_cons] at bound
    by_cases old : node ∈ visited
    · simp only [verdict?, round, ne, old, if_false, if_true]
      exact ih same (by omega)
    · -- a node without edges is visited, and nothing joins the queue
      have bare : ∀ b, ¬ WaitsFor edges node b := by
        intro b edge
        exact closed ((same node).2 ⟨⟨b, edge⟩, old⟩)
      have moved := ahead_visit edges old
      rw [prerequisitesOf_eq_nil bare, List.length_nil] at moved
      simp only [verdict?, round, ne, old, if_false, prerequisitesOf_eq_nil bare, List.append_nil]
      apply ih
      · intro a
        rw [same, List.mem_cons, not_or]
        constructor
        · rintro ⟨⟨b, edge⟩, out⟩
          exact ⟨⟨b, edge⟩, fun eq => bare b (eq ▸ edge), out⟩
        · rintro ⟨edge, -, out⟩
          exact ⟨edge, out⟩
      · omega

/-- A search from one node takes at most two rounds more than there are edges. -/
theorem verdict?_eq_reaches (edges : List Dependency) (start goal : Uuid) :
    verdict? edges goal (edges.length + 2) ⟨[], [start]⟩ = some (reaches edges start goal) := by
  apply verdict?_eq_search
  · intro a
    simp [WaitsFor]
  · have : ahead edges [] ≤ edges.length := List.countP_le_length
    rw [List.length_singleton]
    omega

-- two edges make a cycle, and one of them is stored twice
example : verdict? [⟨⟨1⟩, ⟨2⟩, .epoch⟩, ⟨⟨2⟩, ⟨1⟩, .epoch⟩, ⟨⟨2⟩, ⟨1⟩, .latest⟩] ⟨3⟩ 5 ⟨[], [⟨1⟩]⟩ =
    some false := by decide

end Frontier

/-! ### Cycles -/

/-- The edge from the first task to the second one lies on a cycle: the first task, the second one,
and so on along edges until the first task comes again. No other task comes twice. -/
def OnCycle (edges : List Dependency) (a b : Uuid) : Prop :=
  ∃ rest, (a :: rest).Nodup ∧ (a :: (rest ++ [a])).IsChain (WaitsFor edges) ∧
    (rest ++ [a]).head? = some b

/-- What is reached is reached on a path that passes no task twice. -/
theorem exists_simple_path (path : ReflTransGen (WaitsFor edges) a b) :
    ∃ before, (before ++ [b]).Nodup ∧ (before ++ [b]).IsChain (WaitsFor edges) ∧
      (before ++ [b]).head? = some a := by
  induction path using ReflTransGen.head_induction_on with
  | refl => exact ⟨[], List.nodup_singleton b, List.isChain_singleton b, rfl⟩
  | @head a c edge _ ih =>
    obtain ⟨before, nodup, chain, first⟩ := ih
    by_cases again : a ∈ before ++ [b]
    · -- the path comes to its start again: what lies between is left out
      rcases List.mem_append.1 again with inside | last
      · obtain ⟨left, right, rfl⟩ := List.append_of_mem inside
        rw [List.append_assoc] at nodup chain
        exact ⟨a :: right, (List.nodup_append.1 nodup).2.1, chain.right_of_append, rfl⟩
      · obtain rfl := List.mem_singleton.1 last
        exact ⟨[], List.nodup_singleton a, List.isChain_singleton a, rfl⟩
    · refine ⟨a :: before, List.nodup_cons.2 ⟨again, nodup⟩, ?_, rfl⟩
      refine List.isChain_cons.2 ⟨?_, chain⟩
      intro y hy
      obtain rfl : c = y := Option.some.inj (first.symm.trans hy)
      exact edge

/-- A path from the prerequisite of a further edge to its task does not need the edge. -/
theorem reaches_concat : ReflTransGen (WaitsFor (edges ++ [e])) e.prerequisite e.task ↔
    ReflTransGen (WaitsFor edges) e.prerequisite e.task := by
  rw [Relation.reflTransGen_iff_eq_or_transGen]
  constructor
  · rintro (eq | path)
    · rw [eq]
    · rcases dependsOn_concat.1 path with path | ⟨-, path⟩
      · exact path.to_reflTransGen
      · exact path
  · intro path
    rcases Relation.reflTransGen_iff_eq_or_transGen.1 path with eq | path
    · exact .inl eq
    · exact .inr (dependsOn_concat.2 (.inl path))

/-- A further edge lies on a cycle if and only if its task is reached from its prerequisite. -/
theorem onCycle_concat_iff : OnCycle (edges ++ [e]) e.task e.prerequisite ↔
    ReflTransGen (WaitsFor edges) e.prerequisite e.task := by
  constructor
  · rintro ⟨rest, -, chain, second⟩
    apply reaches_concat.1
    obtain ⟨tail, split⟩ : ∃ tail, rest ++ [e.task] = e.prerequisite :: tail :=
      ⟨_, List.eq_cons_of_mem_head? second⟩
    rw [split] at chain
    have last : (e.prerequisite :: tail).getLast (List.cons_ne_nil _ _) = e.task := by
      simp [← split]
    rw [← last]
    exact List.relationReflTransGen_of_exists_isChain_cons tail chain.tail rfl
  · intro path
    obtain ⟨before, nodup, chain, first⟩ := exists_simple_path path
    refine ⟨before, ?_, ?_, first⟩
    · exact (List.perm_append_singleton _ _).nodup_iff.1 nodup
    · refine List.isChain_cons.2 ⟨?_, chain.imp fun a b edge => waitsFor_concat.2 (.inl edge)⟩
      intro y hy
      obtain rfl : e.prerequisite = y := Option.some.inj (first.symm.trans hy)
      exact waitsFor_concat.2 (.inr ⟨rfl, rfl⟩)

/-! ### What is promised -/

theorem waitsFor_iff_mem_ends : WaitsFor edges a b ↔ (a, b) ∈ edges.map ends := by
  simp [WaitsFor, ends]

/-- What is promised of the test before an insertion, on any list of edges. -/
structure DecidesCycle (edges : List Dependency) (task prerequisite : Uuid) : Prop where
  /-- Its search comes to the verdict within two rounds more than there are edges. -/
  terminates : Frontier.verdict? edges task (edges.length + 2) ⟨[], [prerequisite]⟩ =
    some (reaches edges prerequisite task)
  /-- The two tasks are one, or one or more edges lead from the prerequisite to the task. -/
  path : wouldCycle edges task prerequisite = true ↔
    task = prerequisite ∨ DependsOn edges prerequisite task
  /-- The new edge would lie on a cycle. -/
  cycle : ∀ now, wouldCycle edges task prerequisite = true ↔
    OnCycle (edges ++ [⟨task, prerequisite, now⟩]) task prerequisite
  /-- Only which tasks are joined by edges matters, not in which order or how often. -/
  unordered : ∀ edges', (∀ x, x ∈ edges'.map ends ↔ x ∈ edges.map ends) →
    wouldCycle edges' task prerequisite = wouldCycle edges task prerequisite

/-- The test before an insertion ends on every graph, and decides whether the edge closes a cycle. -/
theorem cycle_test_decides (edges : List Dependency) (task prerequisite : Uuid) :
    DecidesCycle edges task prerequisite where
  terminates := Frontier.verdict?_eq_reaches edges prerequisite task
  path := by
    rw [wouldCycle_iff, Relation.reflTransGen_iff_eq_or_transGen]
    rfl
  cycle now := by
    rw [wouldCycle_iff]
    exact (onCycle_concat_iff (e := ⟨task, prerequisite, now⟩)).symm
  unordered edges' same := by
    have edges_eq : WaitsFor edges' = WaitsFor edges := by
      funext a b
      rw [waitsFor_iff_mem_ends, waitsFor_iff_mem_ends, same]
    rw [Bool.eq_iff_iff, wouldCycle_iff, wouldCycle_iff, edges_eq]

end WorkQueue.Dependency
