import WorkQueue.Uuid
import WorkQueue.Timestamp

/-!
# Prerequisites

Directed edges between tasks: the first task waits for the second one. Edges are kept free of
cycles by a search before each insertion.

## Main definitions

* `Dependency`: an edge
* `Dependency.reaches`: the search along edges
* `Dependency.wouldCycle`: whether a further edge closes a cycle
-/

namespace WorkQueue

/-- An edge: `task` waits for `prerequisite`. -/
structure Dependency where
  task : Uuid
  prerequisite : Uuid
  createdAt : Timestamp
  deriving DecidableEq, Inhabited

namespace Dependency

/-- The prerequisites of a task, in edge order. -/
def prerequisitesOf (edges : List Dependency) (task : Uuid) : List Uuid :=
  (edges.filter fun e => e.task = task).map (·.prerequisite)

/-- The tasks with prerequisites, other than the given one. -/
def without (open_ : List Uuid) (node : Uuid) : List Uuid :=
  open_.filter (· ≠ node)

theorem length_without_lt {open_ : List Uuid} {node : Uuid} (h : node ∈ open_) :
    (without open_ node).length < open_.length := by
  unfold without
  induction open_ with
  | nil => simp at h
  | cons a rest ih =>
    by_cases ha : a = node
    · subst ha
      have := List.length_filter_le (fun x => decide (x ≠ a)) rest
      simp only [ne_eq, not_true_eq_false, decide_false, Bool.false_eq_true, not_false_eq_true,
        List.filter_cons_of_neg, List.length_cons]
      simp only [ne_eq] at this
      omega
    · have hm : node ∈ rest := by
        rcases List.mem_cons.1 h with rfl | h
        · exact absurd rfl ha
        · exact h
      have := ih hm
      simp only [ne_eq, ha, not_false_eq_true, decide_true, List.filter_cons_of_pos,
        List.length_cons]
      simp only [ne_eq] at this
      omega

/-- Breadth-first search from the nodes in `queue` to `goal`. A node is expanded at most once:
`unexpanded` holds the nodes with outgoing edges that have not been expanded yet. -/
def search (edges : List Dependency) (goal : Uuid) (unexpanded queue : List Uuid) : Bool :=
  match queue with
  | [] => false
  | node :: rest =>
    if node = goal then true
    else if _h : node ∈ unexpanded then
      search edges goal (without unexpanded node) (rest ++ prerequisitesOf edges node)
    else search edges goal unexpanded rest
termination_by (unexpanded.length, queue.length)
decreasing_by
  · exact Prod.Lex.left _ _ (length_without_lt (by assumption))
  · exact Prod.Lex.right _ (by simp)

/-- Whether `goal` is reached from `start` along edges, in any number of steps. -/
def reaches (edges : List Dependency) (start goal : Uuid) : Bool :=
  search edges goal (edges.map (·.task)) [start]

/-- Whether the edge from `task` to `prerequisite` would close a cycle: the two are equal, or the
task is already reached from its prerequisite. -/
def wouldCycle (edges : List Dependency) (task prerequisite : Uuid) : Bool :=
  task = prerequisite || reaches edges prerequisite task

end Dependency

end WorkQueue
