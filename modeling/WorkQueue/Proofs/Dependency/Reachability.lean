import WorkQueue.Dependency
import Mathlib.Logic.Relation

/-!
# Reachability along prerequisite edges

The search along edges decides the reachability relation of the edges, whatever the graph looks
like, and so the test made before an insertion is exact: it refuses an edge if and only if the edge
closes a cycle.

## Main definitions

* `Dependency.ends`: the two tasks of an edge
* `Dependency.WaitsFor`, `Dependency.DependsOn`: along one edge, and along one or more
* `Dependency.Acyclic`: no task depends on itself

## Main statements

* `Dependency.reaches_iff`, `Dependency.wouldCycle_iff`: what the search decides
* `Dependency.acyclic_concat_iff`: when a further edge keeps a graph acyclic
* `Dependency.Acyclic.exists_first`: without cycles there is always a first task
-/

namespace WorkQueue.Dependency

open Relation (ReflTransGen TransGen)

/-- The two tasks of an edge. -/
def ends (e : Dependency) : Uuid × Uuid := (e.task, e.prerequisite)

/-- An edge leads from the first task to the second one. -/
def WaitsFor (edges : List Dependency) (a b : Uuid) : Prop :=
  ∃ e ∈ edges, e.task = a ∧ e.prerequisite = b

/-- One or more edges lead from the first task to the second one. -/
def DependsOn (edges : List Dependency) : Uuid → Uuid → Prop := TransGen (WaitsFor edges)

/-- No task depends on itself. -/
def Acyclic (edges : List Dependency) : Prop := ∀ id, ¬ DependsOn edges id id

variable {edges : List Dependency} {e : Dependency} {a b goal node : Uuid}
  {unexpanded queue : List Uuid}

theorem mem_prerequisitesOf : b ∈ prerequisitesOf edges a ↔ WaitsFor edges a b := by
  simp [prerequisitesOf, WaitsFor, and_assoc]

/-- Further edges keep what leads somewhere. -/
theorem WaitsFor.mono {edges' : List Dependency} (edge : WaitsFor edges a b)
    (h : edges ⊆ edges') : WaitsFor edges' a b := by
  obtain ⟨e, he, same⟩ := edge
  exact ⟨e, h he, same⟩

theorem DependsOn.mono {edges' : List Dependency} (path : DependsOn edges a b)
    (h : edges ⊆ edges') : DependsOn edges' a b :=
  TransGen.mono (fun _ _ edge => edge.mono h) _ _ path

/-! ### The search -/

/-- What the search finds is reached from the queue. -/
theorem exists_of_search (h : search edges goal unexpanded queue = true) :
    ∃ node ∈ queue, ReflTransGen (WaitsFor edges) node goal := by
  fun_induction search edges goal unexpanded queue with
  | case1 => cases h
  | case2 => exact ⟨_, List.mem_cons_self, .refl⟩
  | case3 unexpanded node rest _ _ ih =>
    obtain ⟨next, hnext, path⟩ := ih h
    rcases List.mem_append.1 hnext with hnext | hnext
    · exact ⟨next, List.mem_cons_of_mem _ hnext, path⟩
    · exact ⟨node, List.mem_cons_self, path.head (mem_prerequisitesOf.1 hnext)⟩
  | case4 unexpanded node rest _ _ ih =>
    obtain ⟨next, hnext, path⟩ := ih h
    exact ⟨next, List.mem_cons_of_mem _ hnext, path⟩

/-- A search that fails has found a set of nodes that contains the queue, is closed under edges, and
misses the goal. `seen` are the nodes that left the queue: their edges lead to it or to one another,
and they contain every node with edges that is not to be expanded any more. -/
theorem closed_of_search (h : search edges goal unexpanded queue = false) (seen : Uuid → Prop)
    (missed : ¬ seen goal)
    (expanded : ∀ a b, WaitsFor edges a b → a ∉ unexpanded → seen a)
    (frontier : ∀ a b, seen a → WaitsFor edges a b → seen b ∨ b ∈ queue) :
    ∃ closed : Uuid → Prop, (∀ node ∈ queue, closed node) ∧ (∀ a, seen a → closed a) ∧
      ¬ closed goal ∧ ∀ a b, closed a → WaitsFor edges a b → closed b := by
  fun_induction search edges goal unexpanded queue generalizing seen with
  | case1 =>
    refine ⟨seen, by simp, fun _ => id, missed, fun a b ha hab => ?_⟩
    simpa using frontier a b ha hab
  | case2 => cases h
  | case3 unexpanded node rest ne _ ih =>
    -- the node is expanded: it has been seen from now on, and its edges lead into the queue
    have missed' : ¬ (seen goal ∨ goal = node) := by
      rintro (hgoal | rfl)
      · exact missed hgoal
      · exact ne rfl
    obtain ⟨closed, hqueue, hseen, hgoal, hclosed⟩ := ih h (fun a => seen a ∨ a = node) missed'
      (by
        intro a b hab ha
        by_cases heq : a = node
        · exact .inr heq
        · exact .inl (expanded a b hab fun hmem => ha (by simp [without, hmem, heq])))
      (by
        rintro a b (ha | rfl) hab
        · rcases frontier a b ha hab with hb | hb
          · exact .inl (.inl hb)
          · rcases List.mem_cons.1 hb with rfl | hb
            · exact .inl (.inr rfl)
            · exact .inr (List.mem_append_left _ hb)
        · exact .inr (List.mem_append_right _ (mem_prerequisitesOf.2 hab)))
    refine ⟨closed, fun a ha => ?_, fun a ha => hseen a (.inl ha), hgoal, hclosed⟩
    rcases List.mem_cons.1 ha with rfl | ha
    · exact hseen a (.inr rfl)
    · exact hqueue a (List.mem_append_left _ ha)
  | case4 unexpanded node rest ne done ih =>
    -- the node was expanded before, so it has been seen, or it has no edges
    have missed' : ¬ (seen goal ∨ goal = node) := by
      rintro (hgoal | rfl)
      · exact missed hgoal
      · exact ne rfl
    obtain ⟨closed, hqueue, hseen, hgoal, hclosed⟩ := ih h (fun a => seen a ∨ a = node) missed'
      (fun a b hab ha => .inl (expanded a b hab ha))
      (by
        have step : ∀ a b, seen a → WaitsFor edges a b → (seen b ∨ b = node) ∨ b ∈ rest := by
          intro a b ha hab
          rcases frontier a b ha hab with hb | hb
          · exact .inl (.inl hb)
          · rcases List.mem_cons.1 hb with rfl | hb
            · exact .inl (.inr rfl)
            · exact .inr hb
        rintro a b (ha | rfl) hab
        · exact step a b ha hab
        · exact step a b (expanded a b hab done) hab)
    refine ⟨closed, fun a ha => ?_, fun a ha => hseen a (.inl ha), hgoal, hclosed⟩
    rcases List.mem_cons.1 ha with rfl | ha
    · exact hseen a (.inr rfl)
    · exact hqueue a ha

/-- The search decides whether the goal is reached, along no edge or more. -/
theorem reaches_iff : reaches edges a goal = true ↔ ReflTransGen (WaitsFor edges) a goal := by
  constructor
  · intro h
    obtain ⟨node, hnode, path⟩ := exists_of_search h
    rwa [List.mem_singleton.1 hnode] at path
  · intro path
    cases h : reaches edges a goal with
    | true => rfl
    | false =>
      -- a set closed under edges contains whatever is reached from it, so it cannot miss the goal
      obtain ⟨closed, hstart, -, hgoal, hclosed⟩ :=
        closed_of_search h (fun _ => False) (fun hf => hf)
          (fun a b ⟨e, he, htask, _⟩ ha => ha (htask ▸ List.mem_map_of_mem he))
          (fun _ _ hf => hf.elim)
      have reached : closed goal := by
        clear h hgoal
        induction path with
        | refl => exact hstart a (List.mem_singleton_self a)
        | tail _ edge ih => exact hclosed _ _ ih edge
      exact absurd reached hgoal

/-- The test before an insertion: the two tasks are one, or the task is already reached. -/
theorem wouldCycle_iff {task prerequisite : Uuid} :
    wouldCycle edges task prerequisite = true ↔
      ReflTransGen (WaitsFor edges) prerequisite task := by
  rw [wouldCycle, Bool.or_eq_true, decide_eq_true_eq, reaches_iff]
  constructor
  · rintro (rfl | path)
    · exact .refl
    · exact path
  · exact .inr

/-! ### Acyclic graphs -/

theorem waitsFor_concat : WaitsFor (edges ++ [e]) a b ↔
    WaitsFor edges a b ∨ e.task = a ∧ e.prerequisite = b := by
  simp [WaitsFor, or_and_right, exists_or]

/-- A path with a further edge avoids the edge, or passes it at least once. -/
theorem dependsOn_concat : DependsOn (edges ++ [e]) a b ↔ DependsOn edges a b ∨
    ReflTransGen (WaitsFor edges) a e.task ∧ ReflTransGen (WaitsFor edges) e.prerequisite b := by
  constructor
  · intro path
    -- on the last edge: once the new edge has been passed, every later edge extends the second part
    induction path with
    | single edge =>
      rcases waitsFor_concat.1 edge with edge | ⟨rfl, rfl⟩
      · exact .inl (.single edge)
      · exact .inr ⟨.refl, .refl⟩
    | tail _ edge ih =>
      rcases waitsFor_concat.1 edge with edge | ⟨rfl, rfl⟩
      · exact ih.imp (fun path => path.tail edge) (And.imp_right fun path => path.tail edge)
      · exact .inr ⟨ih.elim (fun path => path.to_reflTransGen) And.left, .refl⟩
  · have lift : ∀ c d, WaitsFor edges c d → WaitsFor (edges ++ [e]) c d :=
      fun c d edge => waitsFor_concat.2 (.inl edge)
    rintro (path | ⟨first, second⟩)
    · exact TransGen.mono lift _ _ path
    · have edge : WaitsFor (edges ++ [e]) e.task e.prerequisite :=
        waitsFor_concat.2 (.inr ⟨rfl, rfl⟩)
      have path := TransGen.head' edge (ReflTransGen.mono lift _ _ second)
      exact path.trans_right (ReflTransGen.mono lift _ _ first)

/-- A further edge keeps a graph acyclic unless its prerequisite already reaches its task. -/
theorem acyclic_concat_iff : Acyclic (edges ++ [e]) ↔
    Acyclic edges ∧ ¬ ReflTransGen (WaitsFor edges) e.prerequisite e.task := by
  constructor
  · intro h
    refine ⟨fun id path => h id (dependsOn_concat.2 (.inl path)), fun path => ?_⟩
    exact h e.task (dependsOn_concat.2 (.inr ⟨.refl, path⟩))
  · rintro ⟨acyclic, apart⟩ id path
    rcases dependsOn_concat.1 path with path | ⟨first, second⟩
    · exact acyclic id path
    · exact apart (second.trans first)

/-- Nothing leads to a task that is no edge's prerequisite. -/
theorem eq_of_reaches (path : ReflTransGen (WaitsFor edges) a b)
    (h : ∀ e ∈ edges, e.prerequisite ≠ b) : a = b := by
  rcases ReflTransGen.cases_tail path with rfl | ⟨c, -, e, he, -, prerequisite_eq⟩
  · rfl
  · exact absurd prerequisite_eq (h e he)

theorem acyclic_nil : Acyclic [] := by
  intro id path
  obtain ⟨_, ⟨_, hmem, _⟩, _⟩ := TransGen.head'_iff.1 path
  cases hmem

/-- Without cycles, one of finitely many tasks depends on none of them. -/
theorem Acyclic.exists_first (acyclic : Acyclic edges) {ids : List Uuid} (nonempty : ids ≠ []) :
    ∃ a ∈ ids, ∀ b ∈ ids, ¬ DependsOn edges a b := by
  induction ids with
  | nil => exact absurd rfl nonempty
  | cons a ids ih =>
    by_cases last : ids = []
    · subst last
      refine ⟨a, List.mem_cons_self, fun b hb => ?_⟩
      obtain rfl := List.mem_singleton.1 hb
      exact acyclic b
    · obtain ⟨first, hfirst, independent⟩ := ih last
      by_cases path : DependsOn edges first a
      · -- what the new task depends on, the first of the others would depend on as well
        refine ⟨a, List.mem_cons_self, fun b hb path' => ?_⟩
        rcases List.mem_cons.1 hb with rfl | hb
        · exact acyclic b path'
        · exact independent b hb (path.trans path')
      · refine ⟨first, List.mem_cons_of_mem _ hfirst, fun b hb => ?_⟩
        rcases List.mem_cons.1 hb with rfl | hb
        · exact path
        · exact independent b hb

end WorkQueue.Dependency
