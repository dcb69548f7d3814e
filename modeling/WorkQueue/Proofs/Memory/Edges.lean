import WorkQueue.Proofs.Dependency.Reachability
import WorkQueue.Proofs.Memory.Run
import Mathlib.Data.List.Infix

/-!
# Prerequisite edges of a run

Edges come from two sources. One that is added to a stored task is searched for a cycle first. Those
of a new chain are added without a search: no edge leads to a task of the chain yet, and within the
chain each edge leads to an earlier task.

## Main definitions

* `Memory.EdgeChange`: what a step does to the edges
* `Memory.State.Linked`: distinct edges without cycles between stored tasks
* `Memory.EdgesLinked`: linked edges, and exact reports of cycles

## Main statements

* `Memory.Step.edgeChange`: edges are kept, or one is added, or those of a chain
* `Memory.Run.linked`, `Memory.edges_linked`: every run keeps edges linked, and a cycle is reported
  exactly when a new edge would close one
-/

namespace WorkQueue.Memory

open Dependency

variable {policy : Backoff.Policy} {s s' : State} {history : List Exchange} {x : Exchange}
  {id : Uuid} {t : Task} {ts : List Task} {e : Dependency} {edges : List Dependency}
  {now : Timestamp}

/-! ### The edges of a chain -/

namespace State

/-- The edges of a chain lead from each task to the one before it. -/
theorem mem_chainEdges : e ∈ chainEdges now ts ↔
    ∃ a b, [a, b] <:+: ts ∧ e = ⟨b.id, a.id, now⟩ := by
  fun_induction chainEdges now ts with
  | case1 a b rest ih =>
    have first_or_later : ∀ c d, [c, d] <:+: a :: b :: rest ↔
        (c = a ∧ d = b) ∨ [c, d] <:+: b :: rest := by
      intro c d
      rw [List.infix_cons_iff]
      simp only [List.cons_prefix_cons, List.nil_prefix, and_true]
    simp only [List.mem_cons, ih, first_or_later]
    constructor
    · rintro (rfl | ⟨c, d, h, rfl⟩)
      · exact ⟨a, b, .inl ⟨rfl, rfl⟩, rfl⟩
      · exact ⟨c, d, .inr h, rfl⟩
    · rintro ⟨c, d, ⟨rfl, rfl⟩ | h, rfl⟩
      · exact .inl rfl
      · exact .inr ⟨c, d, h, rfl⟩
  | case2 ts short =>
    refine iff_of_false List.not_mem_nil ?_
    rintro ⟨a, b, ⟨before, after, rfl⟩, -⟩
    cases before with
    | nil => exact short a b after rfl
    | cons c before =>
      cases before with
      | nil => exact short c a (b :: after) rfl
      | cons d before => exact short c d (before ++ [a, b] ++ after) rfl

/-- The edges of a chain link each task to the one before it. -/
theorem chainEdges_eq_zipWith (now : Timestamp) (ts : List Task) :
    chainEdges now ts = ts.zipWith (fun a b => ⟨b.id, a.id, now⟩) ts.tail := by
  fun_induction chainEdges now ts with
  | case1 a b rest ih => simpa using ih
  | case2 ts short =>
    cases ts with
    | nil => rfl
    | cons a ts =>
      cases ts with
      | nil => rfl
      | cons b ts => exact absurd rfl (short a b ts)

theorem ids_of_mem_chainEdges (h : e ∈ chainEdges now ts) :
    e.task ∈ ts.map (·.id) ∧ e.prerequisite ∈ ts.map (·.id) := by
  obtain ⟨a, b, inside, rfl⟩ := mem_chainEdges.1 h
  exact ⟨List.mem_map_of_mem (inside.subset (by simp)),
    List.mem_map_of_mem (inside.subset (by simp))⟩

theorem nodup_chainEdges (hts : (ts.map (·.id)).Nodup) :
    ((chainEdges now ts).map ends).Nodup := by
  fun_induction chainEdges now ts with
  | case1 a b rest ih =>
    rw [List.map_cons, List.nodup_cons] at hts
    rw [List.map_cons, List.nodup_cons]
    refine ⟨fun again => ?_, ih hts.2⟩
    obtain ⟨e, he, same⟩ := List.mem_map.1 again
    have prerequisite_eq : e.prerequisite = a.id := congrArg Prod.snd same
    exact hts.1 (prerequisite_eq ▸ (ids_of_mem_chainEdges he).2)
  | case2 => exact List.nodup_nil

/-- A chain of tasks to which no edge leads closes no cycle. -/
theorem acyclic_append_chainEdges (acyclic : Acyclic edges) (hts : (ts.map (·.id)).Nodup)
    (new : ∀ e ∈ edges, e.prerequisite ∉ ts.map (·.id)) :
    Acyclic (edges ++ chainEdges now ts) := by
  fun_induction chainEdges now ts generalizing edges with
  | case1 a b rest ih =>
    rw [List.map_cons, List.nodup_cons] at hts
    rw [List.append_cons]
    -- no edge leads to the second task yet, so the edge from it to the first one closes no cycle
    refine ih (acyclic_concat_iff.2 ⟨acyclic, fun path => ?_⟩) hts.2 ?_
    · have same : a.id = b.id := by
        refine eq_of_reaches path fun e he heq => new e he ?_
        simp [heq]
      exact hts.1 (same ▸ List.mem_map_of_mem List.mem_cons_self)
    · intro e he
      rcases List.mem_append.1 he with he | he
      · exact fun inside => new e he (List.mem_cons_of_mem _ inside)
      · obtain rfl := List.mem_singleton.1 he
        exact hts.1
  | case2 => rwa [List.append_nil]

end State

/-! ### Edges in a step -/

/-- What a step does to the edges. -/
inductive EdgeChange (s s' : State) : Prop where
  | kept (edges_eq : s'.edges = s.edges)
  /-- A new edge from a pending task that closes no cycle. -/
  | linked (e : Dependency) (edges_eq : s'.edges = s.edges ++ [e])
      (source : ∃ t, s'.find? e.task = some t ∧ t.status = .pending)
      (target : (s'.find? e.prerequisite).isSome) (new : e.ends ∉ s.edges.map ends)
      (acyclic : wouldCycle s.edges e.task e.prerequisite = false)
  /-- The edges of a chain of new, pending tasks. -/
  | chained (ts : List Task) (now : Timestamp)
      (edges_eq : s'.edges = s.edges ++ State.chainEdges now ts) (nodup : (ts.map (·.id)).Nodup)
      (created : ∀ t ∈ ts, s.find? t.id = none ∧ s'.find? t.id = some t ∧ t.status = .pending)

theorem Change.edgeChange {call : Call} {reply : Reply} (c : Change policy s call reply s')
    (hs : s.Keyed) (admissible : call.Admissible s) : EdgeChange s s' := by
  have hs' := c.keyed hs admissible
  cases c with
  | refused | enqueued | linkedBefore | registered | moved => exact .kept rfl
  | claimed => exact .kept (State.foldl_put_edges _ _)
  | linked now found pending target new acyclic =>
    refine .linked _ rfl ⟨_, found, pending⟩ target (fun known => ?_) acyclic
    obtain ⟨e, he, same⟩ := List.mem_map.1 known
    exact new e he (congrArg Prod.fst same) (congrArg Prod.snd same)
  | chained ids now accepted =>
    obtain ⟨length_eq, nodup, fresh⟩ := admissible
    rw [accepted.length_eq] at length_eq
    have ids_eq := ids_chainRows now length_eq
    refine .chained _ now rfl (ids_eq.symm ▸ nodup) fun t ht => ?_
    refine ⟨fresh t.id (ids_eq ▸ List.mem_map_of_mem ht), State.find?_insert_of_mem hs' ht, ?_⟩
    obtain ⟨spec, checked, -, built⟩ := mem_chainRows accepted ht
    rw [← built]
    rfl

/-- A step keeps the edges, or adds one, or those of a chain. -/
theorem Step.edgeChange (step : Step policy s x s') (hs : s.Keyed) : EdgeChange s s' := by
  obtain ⟨order, perm, admissible, c⟩ := step.change
  cases c.edgeChange (hs.visiting perm) ((admissible_visiting hs perm _).2 admissible) with
  | kept edges_eq => exact .kept edges_eq
  | linked e edges_eq source target new acyclic =>
    exact .linked e edges_eq source target new acyclic
  | chained ts now edges_eq nodup created =>
    refine .chained ts now edges_eq nodup fun t ht => ?_
    rw [← State.find?_visiting hs perm]
    exact created t ht

theorem EdgeChange.subset (change : EdgeChange s s') : s.edges ⊆ s'.edges := by
  cases change with
  | kept edges_eq => exact edges_eq ▸ List.Subset.refl _
  | linked _ edges_eq | chained _ _ edges_eq =>
    rw [edges_eq]
    exact List.subset_append_left _ _

/-- Only pending tasks gain prerequisites. -/
theorem EdgeChange.pending (change : EdgeChange s s') (h : e ∈ s'.edges) :
    e ∈ s.edges ∨ ∃ t, s'.find? e.task = some t ∧ t.status = .pending := by
  cases change with
  | kept edges_eq => exact .inl (edges_eq ▸ h)
  | linked new edges_eq source =>
    rw [edges_eq] at h
    refine (List.mem_append.1 h).imp id fun h => ?_
    rwa [List.mem_singleton.1 h]
  | chained ts now edges_eq _ created =>
    rw [edges_eq] at h
    refine (List.mem_append.1 h).imp id fun h => ?_
    obtain ⟨t, ht, same⟩ := List.mem_map.1 (State.ids_of_mem_chainEdges h).1
    rw [← same]
    exact ⟨t, (created t ht).2⟩

/-! ### Edges in a run -/

/-- The edges are those of a graph of stored tasks without cycles. -/
structure State.Linked (s : State) : Prop where
  /-- No task is reached from itself along one or more edges. -/
  acyclic : Acyclic s.edges
  /-- No edge is stored twice. -/
  nodup : (s.edges.map ends).Nodup
  /-- Edges lead from stored tasks to stored tasks. -/
  stored : ∀ e ∈ s.edges, (s.find? e.task).isSome ∧ (s.find? e.prerequisite).isSome

theorem Step.linked (step : Step policy s x s') (hs : s.Keyed) (h : s.Linked) : s'.Linked := by
  have kept : ∀ e ∈ s.edges, (s'.find? e.task).isSome ∧ (s'.find? e.prerequisite).isSome :=
    fun e he => (h.stored e he).imp (step.isSome_find? hs) (step.isSome_find? hs)
  cases step.edgeChange hs with
  | kept edges_eq => exact ⟨edges_eq ▸ h.acyclic, edges_eq ▸ h.nodup, edges_eq ▸ kept⟩
  | linked e edges_eq source target new open_ =>
    obtain ⟨t, found, -⟩ := source
    -- the search found no way back from the prerequisite to the task
    have apart : ¬ Relation.ReflTransGen (WaitsFor s.edges) e.prerequisite e.task := by
      rw [← wouldCycle_iff, open_]
      exact Bool.false_ne_true
    refine ⟨edges_eq ▸ acyclic_concat_iff.2 ⟨h.acyclic, apart⟩, ?_, fun e' he' => ?_⟩
    · rw [edges_eq, List.map_append, List.map_singleton, ← List.concat_eq_append]
      exact h.nodup.concat new
    · rw [edges_eq] at he'
      rcases List.mem_append.1 he' with he' | he'
      · exact kept e' he'
      · obtain rfl := List.mem_singleton.1 he'
        exact ⟨found ▸ rfl, target⟩
  | chained ts now edges_eq nodup created =>
    -- the tasks of the chain are new, so no edge leads to one of them
    have outside : ∀ e ∈ s.edges, e.prerequisite ∉ ts.map (·.id) := by
      intro e he inside
      obtain ⟨t, ht, same⟩ := List.mem_map.1 inside
      have unknown := (created t ht).1
      simpa [same ▸ unknown] using (h.stored e he).2
    refine ⟨edges_eq ▸ State.acyclic_append_chainEdges h.acyclic nodup outside, ?_,
      fun e he => ?_⟩
    · rw [edges_eq, List.map_append, List.nodup_append]
      refine ⟨h.nodup, State.nodup_chainEdges nodup, ?_⟩
      rintro _ before _ after rfl
      obtain ⟨old, hold, same⟩ := List.mem_map.1 before
      obtain ⟨new, hnew, rfl⟩ := List.mem_map.1 after
      have prerequisite_eq : old.prerequisite = new.prerequisite := congrArg Prod.snd same
      exact outside old hold (prerequisite_eq ▸ (State.ids_of_mem_chainEdges hnew).2)
    · rw [edges_eq] at he
      rcases List.mem_append.1 he with he | he
      · exact kept e he
      · have stored : ∀ id ∈ ts.map (·.id), (s'.find? id).isSome := by
          intro id hid
          obtain ⟨t, ht, rfl⟩ := List.mem_map.1 hid
          exact (created t ht).2.1 ▸ rfl
        exact (State.ids_of_mem_chainEdges he).imp (stored _) (stored _)

theorem Run.linked (run : Run policy {} history s) : s.Linked := by
  induction run with
  | nil => exact ⟨acyclic_nil, List.nodup_nil, fun _ he => absurd he List.not_mem_nil⟩
  | snoc run step ih => exact step.linked (run.keyed keyed_empty) ih

/-! ### Refused edges -/

/-- For a pending task and a stored prerequisite, a request either meets the edge stored before,
closes a cycle, or adds an edge. -/
theorem Update.on_addDependency_of_pending {task prerequisite : Uuid} (found : s.find? task = some t)
    (pending : t.status = .pending) (target : (s.find? prerequisite).isSome) (now : Timestamp) :
    (∃ e ∈ s.edges, e.ends = (task, prerequisite) ∧
        (Update.addDependency task prerequisite now).on s = (.ok e, s)) ∨
      (task, prerequisite) ∉ s.edges.map ends ∧
        (Update.addDependency task prerequisite now).on s =
          if wouldCycle s.edges task prerequisite then
            (.error (.cycleDetected task prerequisite), s)
          else (.ok ⟨task, prerequisite, now⟩, s.link [⟨task, prerequisite, now⟩]) := by
  have stored : (s.find? prerequisite).isNone = false := by
    rw [← Option.not_isSome, target]
    rfl
  simp only [Update.on_addDependency, found, stored, pending]
  cases known : s.edges.find? fun e => e.task = task && e.prerequisite = prerequisite with
  | some e =>
    have same := List.find?_some known
    simp only [Bool.and_eq_true, decide_eq_true_eq] at same
    exact .inl ⟨e, List.mem_of_find?_eq_some known, Prod.ext same.1 same.2, by simp⟩
  | none =>
    refine .inr ⟨fun inside => ?_, by simp⟩
    obtain ⟨e, he, same⟩ := List.mem_map.1 inside
    have unlike := List.find?_eq_none.1 known e he
    simp only [Bool.and_eq_true, decide_eq_true_eq] at unlike
    exact unlike ⟨congrArg Prod.fst same, congrArg Prod.snd same⟩

/-- What is promised of prerequisite edges: they are linked, and a cycle is reported exactly when a
new edge would close one. -/
structure EdgesLinked (s : State) : Prop extends s.Linked where
  /-- An edge from a pending task to a stored one is refused for a cycle if and only if it is new
  and the edges with it have a cycle. -/
  cycleDetected_iff : ∀ task prerequisite now t, s.find? task = some t → t.status = .pending →
    (s.find? prerequisite).isSome →
      (((Update.addDependency task prerequisite now).on s).1 =
          .error (.cycleDetected task prerequisite) ↔
        (task, prerequisite) ∉ s.edges.map ends ∧
          ¬ Acyclic (s.edges ++ [⟨task, prerequisite, now⟩]))
  /-- It is refused for no other reason. -/
  refused : ∀ task prerequisite now t failure, s.find? task = some t → t.status = .pending →
    (s.find? prerequisite).isSome →
      ((Update.addDependency task prerequisite now).on s).1 = .error failure →
        failure = .cycleDetected task prerequisite

/-- The prerequisite edges of every run are those of a graph without cycles. -/
theorem edges_linked (run : Run policy {} history s) : EdgesLinked s where
  toLinked := run.linked
  cycleDetected_iff task prerequisite now t found pending target := by
    have closes : ¬ Acyclic (s.edges ++ [⟨task, prerequisite, now⟩]) ↔
        wouldCycle s.edges task prerequisite = true := by
      rw [acyclic_concat_iff, wouldCycle_iff, not_and_not_right]
      exact forall_prop_of_true run.linked.acyclic
    rw [closes]
    rcases Update.on_addDependency_of_pending found pending target now with
      ⟨e, he, same, reply⟩ | ⟨new, reply⟩
    · rw [reply]
      refine iff_of_false (by simp) fun h => h.1 ?_
      rw [← same]
      exact List.mem_map_of_mem he
    · rw [reply]
      split
      · rename_i cycle
        exact iff_of_true rfl ⟨new, cycle⟩
      · rename_i open_
        exact iff_of_false (by simp) fun h => open_ h.2
  refused task prerequisite now t failure found pending target h := by
    rcases Update.on_addDependency_of_pending found pending target now with
      ⟨e, he, same, reply⟩ | ⟨new, reply⟩
    · simp [reply] at h
    · rw [reply] at h
      split at h
      · exact (Except.error.inj h).symm
      · cases h

/-- A chain of three tasks, and a request for an edge that it has. -/
def linkedCalls : List Call :=
  [.upsertType ⟨"mail", 2, 0, none⟩ .epoch,
    .createChain (List.replicate 3 { taskType := "mail", payload := .null }) [⟨1⟩, ⟨2⟩, ⟨3⟩] .epoch,
    .addDependency ⟨3⟩ ⟨2⟩ .epoch]

theorem edges_linked_of_chain : ∃ history s, Run {} {} history s ∧
    s.edges.map ends = [(⟨2⟩, ⟨1⟩), (⟨3⟩, ⟨2⟩)] ∧ EdgesLinked s := by
  have run : Run {} {} (replay {} {} linkedCalls).1 (replay {} {} linkedCalls).2 :=
    run_replay (by decide +kernel)
  exact ⟨_, _, run, by decide +kernel, edges_linked run⟩

end WorkQueue.Memory
