import WorkQueue.Memory.State
import Mathlib.Data.List.Nodup
import Mathlib.Data.List.Perm.Basic

/-!
# Rows by identifier

What looking up an identifier or a name finds after rows were replaced, added, or put into another
order. Later modules reason about stored rows through these lemmas and do not look at the lists.

## Main definitions

* `Memory.State.Keyed`: no two rows share an identifier
* `Memory.State.visiting`: the same rows in another order
-/

namespace WorkQueue.Memory.State

variable {s : State} {t : Task} {ts : List Task} {id : Uuid}

/-- No two rows share an identifier. -/
def Keyed (s : State) : Prop := (s.tasks.map (·.id)).Nodup

/-- The same rows, visited in the given order. -/
def visiting (s : State) (order : List Task) : State := { s with tasks := order }

@[simp] theorem visiting_types (order : List Task) : (s.visiting order).types = s.types := rfl

@[simp] theorem visiting_edges (order : List Task) : (s.visiting order).edges = s.edges := rfl

@[simp] theorem put_types : (s.put t).types = s.types := rfl

@[simp] theorem put_edges : (s.put t).edges = s.edges := rfl

/-! ### Looking up a task -/

theorem mem_of_find? (h : s.find? id = some t) : t ∈ s.tasks :=
  List.mem_of_find?_eq_some h

theorem id_of_find? (h : s.find? id = some t) : t.id = id := by
  simpa using List.find?_some h

theorem find?_eq_none_iff : s.find? id = none ↔ id ∉ s.tasks.map (·.id) := by
  simp [find?]

/-- With distinct identifiers, the row found is the only one stored under its identifier. -/
theorem find?_eq_some_iff (hs : s.Keyed) : s.find? id = some t ↔ t ∈ s.tasks ∧ t.id = id := by
  constructor
  · intro h
    exact ⟨mem_of_find? h, id_of_find? h⟩
  · rintro ⟨hmem, rfl⟩
    cases h : s.find? t.id with
    | none => exact absurd (List.mem_map_of_mem hmem) (find?_eq_none_iff.1 h)
    | some t' =>
      have := List.inj_on_of_nodup_map hs (mem_of_find? h) hmem (id_of_find? h)
      rw [this]

/-- Rows under the same identifiers, in the same order, are the same if look-ups find the same. -/
theorem tasks_eq_of_find?_eq {s' : State} (hs : s.Keyed)
    (ids : s'.tasks.map (·.id) = s.tasks.map (·.id)) (found : ∀ id, s'.find? id = s.find? id) :
    s'.tasks = s.tasks := by
  have hs' : s'.Keyed := by
    rw [Keyed, ids]
    exact hs
  have length_eq : s'.tasks.length = s.tasks.length := by
    simpa using congrArg List.length ids
  refine List.ext_getElem length_eq fun i inside' inside => ?_
  have id_eq : s'.tasks[i].id = s.tasks[i].id := by
    have same := congrArg (fun l => l[i]?) ids
    simpa [inside, inside'] using same
  have left := (find?_eq_some_iff hs').2 ⟨List.getElem_mem inside', id_eq⟩
  have right := (find?_eq_some_iff hs).2 ⟨List.getElem_mem inside, rfl⟩
  rw [found, right] at left
  exact (Option.some.inj left).symm

theorem Keyed.visiting (hs : s.Keyed) {order : List Task} (perm : order.Perm s.tasks) :
    (s.visiting order).Keyed :=
  (perm.map _).nodup_iff.2 hs

/-- The order of the rows does not matter to a look-up. -/
theorem find?_visiting (hs : s.Keyed) {order : List Task} (perm : order.Perm s.tasks) (id : Uuid) :
    (s.visiting order).find? id = s.find? id := by
  ext t
  rw [find?_eq_some_iff hs, find?_eq_some_iff (hs.visiting perm)]
  exact and_congr_left fun _ => perm.mem_iff

/-! ### Replacing rows -/

theorem ids_put : (s.put t).tasks.map (·.id) = s.tasks.map (·.id) := by
  rw [put, List.map_map]
  refine List.map_congr_left fun old _ => ?_
  simp only [Function.comp_apply]
  split
  · rename_i h
    exact h.symm
  · rfl

theorem Keyed.put (hs : s.Keyed) : (s.put t).Keyed := by
  rw [Keyed, ids_put]
  exact hs

/-- A replaced row is found in place of the old one; all others are found as before. -/
theorem find?_put : (s.put t).find? id =
    if id = t.id then (s.find? id).map fun _ => t else s.find? id := by
  have same : ∀ old : Task, decide ((if old.id = t.id then t else old).id = id) =
      decide (old.id = id) := by
    intro old
    split
    · rename_i h
      rw [h]
    · rfl
  -- replacing rows commutes with the look-up, since no row changes its identifier
  have found : (s.put t).find? id =
      (s.find? id).map fun old => if old.id = t.id then t else old := by
    simp only [find?, State.put, List.find?_map, Function.comp_def, same]
  rw [found]
  cases h : s.find? id with
  | none => simp
  | some old =>
    by_cases hid : id = t.id <;> simp [id_of_find? h, hid]

theorem find?_put_self {old : Task} (h : s.find? t.id = some old) :
    (s.put t).find? t.id = some t := by
  simp [find?_put, h]

theorem find?_put_of_ne (h : id ≠ t.id) : (s.put t).find? id = s.find? id := by
  simp [find?_put, h]

/-! ### Replacing several rows -/

/-- Of rows with distinct identifiers, one alone is stored under its identifier. -/
theorem filter_id_eq (hts : (ts.map (·.id)).Nodup) (ht : t ∈ ts) :
    ts.filter (fun a => a.id = t.id) = [t] := by
  induction ts with
  | nil => simp at ht
  | cons a ts ih =>
    rw [List.map_cons, List.nodup_cons] at hts
    rcases List.mem_cons.1 ht with rfl | ht
    · have others : ts.filter (fun a => a.id = t.id) = [] := by simpa using hts.1
      simp [others]
    · have hne : a.id ≠ t.id := fun heq => hts.1 (heq ▸ List.mem_map_of_mem ht)
      rw [List.filter_cons_of_neg (by simpa using hne), ih hts.2 ht]

@[simp] theorem foldl_put_types (ts : List Task) (s : State) :
    (ts.foldl State.put s).types = s.types := by
  induction ts generalizing s with
  | nil => rfl
  | cons t ts ih => rw [List.foldl_cons, ih, put_types]

@[simp] theorem foldl_put_edges (ts : List Task) (s : State) :
    (ts.foldl State.put s).edges = s.edges := by
  induction ts generalizing s with
  | nil => rfl
  | cons t ts ih => rw [List.foldl_cons, ih, put_edges]

theorem ids_foldl_put (ts : List Task) (s : State) :
    (ts.foldl State.put s).tasks.map (·.id) = s.tasks.map (·.id) := by
  induction ts generalizing s with
  | nil => rfl
  | cons t ts ih => rw [List.foldl_cons, ih, ids_put]

theorem Keyed.foldl_put (hs : s.Keyed) : (ts.foldl State.put s).Keyed := by
  induction ts generalizing s with
  | nil => exact hs
  | cons t ts ih => exact ih hs.put

theorem find?_foldl_put_of_notMem (h : id ∉ ts.map (·.id)) :
    (ts.foldl State.put s).find? id = s.find? id := by
  induction ts generalizing s with
  | nil => rfl
  | cons t ts ih =>
    simp only [List.map_cons, List.mem_cons, not_or] at h
    rw [List.foldl_cons, ih h.2, find?_put_of_ne h.1]

/-- Of several replaced rows with distinct identifiers, each one is found. -/
theorem find?_foldl_put (hts : (ts.map (·.id)).Nodup) (ht : t ∈ ts) {old : Task}
    (h : s.find? t.id = some old) : (ts.foldl State.put s).find? t.id = some t := by
  induction ts generalizing s old with
  | nil => simp at ht
  | cons a ts ih =>
    rw [List.map_cons, List.nodup_cons] at hts
    rw [List.foldl_cons]
    rcases List.mem_cons.1 ht with rfl | ht
    · rw [find?_foldl_put_of_notMem hts.1, find?_put_self h]
    · have hne : t.id ≠ a.id := by
        intro heq
        exact hts.1 (heq ▸ List.mem_map_of_mem ht)
      exact ih hts.2 ht (by rw [find?_put_of_ne hne, h])

/-! ### Adding rows -/

theorem Keyed.insert (hs : s.Keyed) (hts : (ts.map (·.id)).Nodup)
    (fresh : ∀ t ∈ ts, s.find? t.id = none) : (s.insert ts).Keyed := by
  rw [Keyed, State.insert, List.map_append, List.nodup_append]
  refine ⟨hs, hts, ?_⟩
  rintro _ hold _ hnew rfl
  obtain ⟨t, ht, heq⟩ := List.mem_map.1 hnew
  exact find?_eq_none_iff.1 (fresh t ht) (heq ▸ hold)

theorem find?_insert : (s.insert ts).find? id =
    (s.find? id).or (ts.find? fun t => t.id = id) := by
  simp [find?, State.insert]

/-- Rows under new identifiers hide no old row. -/
theorem find?_insert_of_notMem (h : id ∉ ts.map (·.id)) :
    (s.insert ts).find? id = s.find? id := by
  have : ts.find? (fun t => t.id = id) = none := by simpa using h
  rw [find?_insert, this, Option.or_none]

theorem find?_insert_of_mem (hs : (s.insert ts).Keyed) (ht : t ∈ ts) :
    (s.insert ts).find? t.id = some t :=
  (find?_eq_some_iff hs).2 ⟨List.mem_append_right _ ht, rfl⟩

/-! ### Looking up a type -/

/-- After a type was stored, its name finds it, and every other name finds what it did before. -/
theorem findType?_putType {name : String} {type : TaskType} : (s.putType type).findType? name =
    if name = type.name then some type else s.findType? name := by
  have same : ∀ old : TaskType, decide ((if old.name = type.name then type else old).name = name) =
      decide (old.name = name) := by
    intro old
    split
    · rename_i h
      rw [h]
    · rfl
  unfold putType findType?
  split
  · rename_i known
    simp only [List.find?_map, Function.comp_def, same]
    split
    · rename_i h
      subst h
      obtain ⟨old, hold, hname⟩ := List.any_eq_true.1 known
      cases found : s.types.find? fun old => decide (old.name = type.name) with
      | none => exact absurd hname (List.find?_eq_none.1 found old hold)
      | some first =>
        have : first.name = type.name := by simpa using List.find?_some found
        simp [this]
    · rename_i hne
      cases found : s.types.find? fun old => decide (old.name = name) with
      | none => rfl
      | some first =>
        have : first.name = name := by simpa using List.find?_some found
        simp [this, hne]
  · rename_i unknown
    rw [List.find?_append]
    split
    · rename_i h
      subst h
      have : s.types.find? (fun old => decide (old.name = type.name)) = none := by
        simpa using unknown
      simp [this]
    · rename_i hne
      simp [Ne.symm hne]

end WorkQueue.Memory.State
