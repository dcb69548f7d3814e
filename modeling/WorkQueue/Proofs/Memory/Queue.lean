import WorkQueue.Proofs.Memory.Claiming

/-!
# The queue of claimable tasks

What a claim takes is no longer claimable, and all other tasks are claimable exactly as before: no
task becomes completed, so none is released, and no key changes. So the claimable tasks in claim order
are a queue from which claims take slices, as long as no two of them share a key.

## Main definitions

* `Memory.State.queue`: the claimable tasks in claim order
* `Memory.State.Taken`: the state after some claims, whoever made them

## Main statements

* `Memory.State.Taken.queue_eq`: the queue after some claims is what they have left of it
* `Memory.State.Taken.batch_eq`, `Memory.State.Taken.claim`: one more claim
-/

namespace WorkQueue

namespace Task

/-- A sorted list is the only sorting of its elements, if no two of them share a key. -/
theorem sortForClaim_eq_of_perm {sorted tasks : List Task} (perm : sorted.Perm tasks)
    (ordered : sorted.Pairwise fun a b => a.claimKey ≤ b.claimKey)
    (distinct : (sorted.map claimKey).Nodup) : sortForClaim tasks = sorted := by
  have perm' : (sortForClaim tasks).Perm sorted := (perm_sortForClaim tasks).trans perm.symm
  refine List.Perm.eq_of_pairwise ?_ (pairwise_sortForClaim tasks) ordered perm'
  intro a b ha hb hab hba
  exact List.inj_on_of_nodup_map distinct (perm'.mem_iff.1 ha) hb (le_antisymm hab hba)

end Task

namespace Memory

variable {s s' : State} {t : Task} {id : Uuid} {now : Timestamp} {worker : String} {limit : Nat}
  {order rows : List Task}

namespace State

/-! ### The queue -/

/-- No two claimable tasks share a key. -/
def KeysDistinct (s : State) (now : Timestamp) : Prop :=
  ((s.tasks.filter fun t => s.Claimable now t).map Task.claimKey).Nodup

instance (s : State) (now : Timestamp) : Decidable (s.KeysDistinct now) :=
  inferInstanceAs (Decidable (List.Nodup _))

/-- The claimable tasks in claim order. -/
def queue (s : State) (now : Timestamp) : List Task :=
  Task.sortForClaim (s.tasks.filter (s.isClaimable now))

theorem claim_fst_eq_queue : (s.claim worker limit now).1 =
    ((s.queue now).take limit).map (claimedRow worker now) := rfl

theorem perm_queue : (s.queue now).Perm (s.tasks.filter (s.isClaimable now)) :=
  Task.perm_sortForClaim _

/-- For stored rows of known types, the queue is made of the claimable tasks. -/
theorem perm_queue_claimable
    (known : ∀ t ∈ s.tasks, ∃ type, s.findType? t.taskType = some type) :
    (s.queue now).Perm (s.tasks.filter fun t => s.Claimable now t) := by
  have same : s.tasks.filter (s.isClaimable now) = s.tasks.filter fun t => s.Claimable now t := by
    refine List.filter_congr fun t ht => ?_
    rw [Bool.eq_iff_iff, isClaimable_iff_claimable (known t ht), decide_eq_true_eq]
  rw [← same]
  exact perm_queue

theorem mem_queue : t ∈ s.queue now ↔ t ∈ s.tasks ∧ s.isClaimable now t := by
  rw [perm_queue.mem_iff, List.mem_filter]

theorem nodup_queue (hs : s.Keyed) : ((s.queue now).map (·.id)).Nodup :=
  (perm_queue.map _).nodup_iff.2 (hs.sublist (List.filter_sublist.map _))

/-- A task in the queue has not been completed. -/
theorem not_completed_of_mem_queue (hs : s.Keyed) (ht : t ∈ s.queue now) : ¬ s.Completed t.id := by
  rintro ⟨stored, found, completed⟩
  obtain ⟨member, claimable⟩ := mem_queue.1 ht
  obtain rfl := Option.some.inj (((find?_eq_some_iff hs).2 ⟨member, rfl⟩).symm.trans found)
  obtain ⟨_, _, ⟨pending, -⟩ | ⟨failed, -⟩, -⟩ := isClaimable_iff.1 claimable
  · simp [pending] at completed
  · simp [failed] at completed

/-- Rows in the hands of a worker cannot be claimed. -/
theorem not_isClaimable_claimedRow : ¬ s.isClaimable now (claimedRow worker now t) := by
  intro claimable
  obtain ⟨_, _, ⟨pending, -⟩ | ⟨failed, -⟩, -⟩ := isClaimable_iff.1 claimable
  · cases pending
  · cases failed

/-! ### What claims leave -/

/-- Claims at an instant lead from one state to another: they have returned the rows in this order,
the rows are those of the first tasks of the queue, each in the hands of some worker, and nothing
else is different. -/
structure Taken (s : State) (now : Timestamp) (rows : List Task) (s' : State) : Prop where
  claimed : List.Forall₂ (fun t row => ∃ worker, row = claimedRow worker now t)
    ((s.queue now).take rows.length) rows
  stored : ∀ id, s'.find? id = (rows.find? fun t => t.id = id).or (s.find? id)
  ids : (s'.tasks.map (·.id)).Perm (s.tasks.map (·.id))
  types : s'.types = s.types
  edges : s'.edges = s.edges

/-- Claiming changes no identifier. -/
theorem ids_of_claimed {ts : List Task}
    (claimed : List.Forall₂ (fun t row => ∃ worker, row = claimedRow worker now t) ts rows) :
    rows.map (·.id) = ts.map (·.id) := by
  induction claimed with
  | nil => rfl
  | cons head _ ih =>
    obtain ⟨worker, rfl⟩ := head
    rw [List.map_cons, List.map_cons, ih]
    rfl

theorem Taken.refl (s : State) (now : Timestamp) : s.Taken now [] s where
  claimed := .nil
  stored _ := rfl
  ids := .refl _
  types := rfl
  edges := rfl

namespace Taken

theorem keyed (taken : s.Taken now rows s') (hs : s.Keyed) : s'.Keyed :=
  taken.ids.nodup_iff.2 hs

theorem ids_eq (taken : s.Taken now rows s') :
    rows.map (·.id) = ((s.queue now).take rows.length).map (·.id) :=
  ids_of_claimed taken.claimed

theorem nodup_ids (taken : s.Taken now rows s') (hs : s.Keyed) : (rows.map (·.id)).Nodup := by
  rw [taken.ids_eq]
  exact (nodup_queue hs).sublist ((List.take_sublist _ _).map _)

theorem length_le (taken : s.Taken now rows s') : rows.length ≤ (s.queue now).length := by
  have length_eq := taken.claimed.length_eq
  rw [List.length_take] at length_eq
  omega

/-- A row that was returned is that of a task of the queue. -/
theorem exists_of_mem (taken : s.Taken now rows s') {row : Task} (h : row ∈ rows) :
    ∃ worker, ∃ t ∈ (s.queue now).take rows.length, row = claimedRow worker now t := by
  obtain ⟨i, bound, rfl⟩ := List.mem_iff_getElem.1 h
  have bound' : i < ((s.queue now).take rows.length).length := by
    rw [taken.claimed.length_eq]
    exact bound
  obtain ⟨worker, row_eq⟩ := taken.claimed.get bound' bound
  exact ⟨worker, _, List.getElem_mem bound', row_eq⟩

/-- A stored row has been returned, or has stayed. -/
theorem mem_tasks (taken : s.Taken now rows s') (hs : s.Keyed) :
    t ∈ s'.tasks ↔ t ∈ rows ∨ t ∈ s.tasks ∧ t.id ∉ rows.map (·.id) := by
  have found : t ∈ s'.tasks ↔ s'.find? t.id = some t := by
    rw [find?_eq_some_iff (taken.keyed hs)]
    simp
  rw [found, taken.stored]
  cases returned : rows.find? fun row => row.id = t.id with
  | none =>
    have out : t.id ∉ rows.map (·.id) := by simpa using returned
    have notMem : t ∉ rows := fun h => out (List.mem_map_of_mem h)
    simp [find?_eq_some_iff hs, out, notMem]
  | some row =>
    have hrow : row ∈ rows := List.mem_of_find?_eq_some returned
    have id_eq : row.id = t.id := by simpa using List.find?_some returned
    have inside : t.id ∈ rows.map (·.id) := id_eq ▸ List.mem_map_of_mem hrow
    simp only [Option.some_or, Option.some.injEq, inside, not_true_eq_false, and_false, or_false]
    constructor
    · rintro rfl
      exact hrow
    · intro ht
      exact List.inj_on_of_nodup_map (taken.nodup_ids hs) hrow ht id_eq

/-- No claim completes a task. -/
theorem completed_iff (taken : s.Taken now rows s') (hs : s.Keyed) :
    s'.Completed id ↔ s.Completed id := by
  cases returned : rows.find? fun row => row.id = id with
  | none => rw [Completed, Completed, taken.stored, returned, Option.none_or]
  | some row =>
    obtain ⟨worker, t, ht, rfl⟩ := taken.exists_of_mem (List.mem_of_find?_eq_some returned)
    obtain rfl : (claimedRow worker now t).id = id := by simpa using List.find?_some returned
    constructor
    · rintro ⟨row, found, completed⟩
      rw [taken.stored, returned, Option.some_or] at found
      obtain rfl := Option.some.inj found
      cases completed
    · intro completed
      exact absurd completed (not_completed_of_mem_queue (t := t) hs (List.mem_of_mem_take ht))

/-- What may be claimed is the same as before, row by row: it depends on the state only through the
types, the edges and what is completed. -/
theorem isClaimable_eq (taken : s.Taken now rows s') (hs : s.Keyed) :
    s'.isClaimable now t = s.isClaimable now t := by
  rw [Bool.eq_iff_iff, isClaimable_iff, isClaimable_iff]
  simp only [findType?, taken.types, taken.edges, taken.completed_iff hs]

/-- What claims leave of the queue is the queue after them, in whatever order rows are visited. -/
theorem queue_eq (taken : s.Taken now rows s') (hs : s.Keyed)
    (distinct : ((s.queue now).map Task.claimKey).Nodup) (perm : order.Perm s'.tasks) :
    (s'.visiting order).queue now = (s.queue now).drop rows.length := by
  have sub : ((s.queue now).drop rows.length).Sublist (s.queue now) := List.drop_sublist _ _
  have ordered := (Task.pairwise_sortForClaim (s.tasks.filter (s.isClaimable now))).sublist sub
  have nodup : ((s.queue now).take rows.length ++ (s.queue now).drop rows.length).map (·.id)
      |>.Nodup := by
    rw [List.take_append_drop]
    exact nodup_queue hs
  rw [List.map_append, List.nodup_append, ← taken.ids_eq] at nodup
  obtain ⟨-, nodup_left, apart⟩ := nodup
  refine Task.sortForClaim_eq_of_perm ?_ ordered (distinct.sublist (sub.map _))
  have nodup_after : (s'.visiting order).tasks.Nodup :=
    .of_map _ ((taken.keyed hs).visiting perm)
  rw [List.perm_ext_iff_of_nodup (.of_map _ nodup_left) (nodup_after.filter _)]
  intro t
  show _ ↔ t ∈ order.filter _
  rw [List.mem_filter, isClaimable_visiting (taken.keyed hs) perm, taken.isClaimable_eq hs,
    perm.mem_iff, taken.mem_tasks hs]
  constructor
  · intro ht
    obtain ⟨stored, claimable⟩ := mem_queue.1 (sub.mem ht)
    refine ⟨.inr ⟨stored, fun returned => ?_⟩, claimable⟩
    exact apart _ returned _ (List.mem_map_of_mem ht) rfl
  · rintro ⟨returned | ⟨stored, out⟩, claimable⟩
    · obtain ⟨worker, t, -, rfl⟩ := taken.exists_of_mem returned
      exact absurd claimable not_isClaimable_claimedRow
    · have queued : t ∈ s.queue now := mem_queue.2 ⟨stored, claimable⟩
      rw [← List.take_append_drop rows.length (s.queue now)] at queued
      refine (List.mem_append.1 queued).resolve_left fun early => ?_
      exact out (taken.ids_eq ▸ List.mem_map_of_mem early)

/-- One more claim takes the next slice of the queue. -/
theorem batch_eq (taken : s.Taken now rows s') (hs : s.Keyed)
    (distinct : ((s.queue now).map Task.claimKey).Nodup) (perm : order.Perm s'.tasks) :
    ((s'.visiting order).claim worker limit now).1 =
      (((s.queue now).drop rows.length).take limit).map (claimedRow worker now) := by
  rw [claim_fst_eq_queue, taken.queue_eq hs distinct perm]

theorem claim (taken : s.Taken now rows s') (hs : s.Keyed)
    (distinct : ((s.queue now).map Task.claimKey).Nodup) (perm : order.Perm s'.tasks) :
    s.Taken now (rows ++ ((s'.visiting order).claim worker limit now).1)
      ((s'.visiting order).claim worker limit now).2 := by
  have hs' : (s'.visiting order).Keyed := (taken.keyed hs).visiting perm
  have claimed : List.Forall₂ (fun t row => ∃ worker, row = claimedRow worker now t)
      ((s.queue now).take (rows ++ ((s'.visiting order).claim worker limit now).1).length)
      (rows ++ ((s'.visiting order).claim worker limit now).1) := by
    have slice : ∀ {l : List Task}, l.take (l.take limit).length = l.take limit := by
      intro l
      rw [List.length_take, ← List.take_eq_take_min]
    rw [List.length_append, List.take_add, taken.batch_eq hs distinct perm, List.length_map, slice]
    refine List.rel_append taken.claimed ?_
    rw [List.forall₂_map_right_iff, List.forall₂_same]
    intro t _
    exact ⟨worker, rfl⟩
  have nodup : ((rows ++ ((s'.visiting order).claim worker limit now).1).map (·.id)).Nodup := by
    rw [ids_of_claimed claimed]
    exact (nodup_queue hs).sublist ((List.take_sublist _ _).map _)
  refine ⟨claimed, fun id => ?_, ?_, ?_, ?_⟩
  · rw [find?_claim hs', find?_visiting (taken.keyed hs) perm, taken.stored, List.find?_append]
    -- no identifier is among the rows before and in the batch, so it does not matter which are
    -- looked up first
    cases returned : rows.find? fun t => t.id = id with
    | none => rw [Option.none_or, Option.none_or]
    | some row =>
      rw [List.map_append, List.nodup_append] at nodup
      have inside : id ∈ rows.map (·.id) := by
        rw [← show row.id = id by simpa using List.find?_some returned]
        exact List.mem_map_of_mem (List.mem_of_find?_eq_some returned)
      have other : ((s'.visiting order).claim worker limit now).1.find? (fun t => t.id = id) =
          none := by
        rw [List.find?_eq_none]
        intro t ht same
        exact nodup.2.2 id inside t.id (List.mem_map_of_mem ht) (of_decide_eq_true same).symm
      simp only [other, Option.none_or, Option.some_or]
  · rw [claim_snd, ids_foldl_put]
    exact (perm.map _).trans taken.ids
  · rw [claim_snd, foldl_put_types]
    exact taken.types
  · rw [claim_snd, foldl_put_edges]
    exact taken.edges

end Taken

/-- The same rows, in whatever order they are visited. -/
def SameRows (s s' : State) : Prop :=
  s.tasks.Perm s'.tasks ∧ s.types = s'.types ∧ s.edges = s'.edges

/-- Claims that have returned the same rows in the same order have left the same rows. -/
theorem Taken.sameRows {s₁ s₂ : State} (first : s.Taken now rows s₁) (second : s.Taken now rows s₂)
    (hs : s.Keyed) : s₁.SameRows s₂ := by
  refine ⟨?_, first.types.trans second.types.symm, first.edges.trans second.edges.symm⟩
  rw [List.perm_ext_iff_of_nodup (.of_map _ (first.keyed hs)) (.of_map _ (second.keyed hs))]
  intro t
  rw [first.mem_tasks hs, second.mem_tasks hs]

/-- Claims that have taken the same tasks have left the same rows, but for the rows taken. -/
theorem Taken.find?_eq_or {rows' : List Task} {s₁ s₂ : State} (first : s.Taken now rows s₁)
    (second : s.Taken now rows' s₂) (ids : rows.map (·.id) = rows'.map (·.id)) (id : Uuid) :
    s₁.find? id = (rows.find? fun t => t.id = id).or (s₂.find? id) := by
  rw [first.stored, second.stored]
  cases returned : rows.find? fun t => t.id = id with
  | some row => rfl
  | none =>
    have out : id ∉ rows'.map (·.id) := by
      rw [← ids]
      simpa using returned
    have absent : rows'.find? (fun t => t.id = id) = none := by simpa using out
    rw [absent, Option.none_or, Option.none_or]

end State

end Memory

end WorkQueue
