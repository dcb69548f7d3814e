import WorkQueue.Proofs.Memory.Claiming
import WorkQueue.Proofs.Memory.Types
import WorkQueue.TypeRegistry
import Mathlib.Data.String.Basic

/-!
# Cached task types

What looking up a name finds after types were cached. A cache that is filled from the stored types finds
what the storage finds.

## Main statements

* `TypeCache.find?_insert`, `TypeCache.find?_foldl_insert`: what is found after types were cached
* `TypeCache.ofList_of_distinct`: filling a cache with types of different names
* `Memory.State.find?_ofList_listTypes`: a filled cache finds what the storage finds
* `Memory.State.names_ofList_listTypes`: its names are those of the stored types, in ascending order
-/

namespace WorkQueue

namespace TypeCache

variable {c : TypeCache} {type : TaskType} {types : List TaskType} {name : String}

theorem name_of_find? (cached : c.find? name = some type) : type.name = name := by
  simpa using List.find?_some cached

theorem find?_insert : (c.insert type).find? name =
    if name = type.name then some type else c.find? name := by
  simp only [find?, insert, List.find?_cons, List.find?_filter]
  by_cases same : type.name = name
  · simp [same]
  · have passed : ∀ old : TaskType, (old.name ≠ type.name ∧ old.name = name) ↔ old.name = name :=
      fun old => and_iff_right_of_imp fun found other => same (other.symm.trans found)
    simp [same, Ne.symm same, passed]

/-- Of cached types with distinct names, each one is found. -/
theorem find?_foldl_insert (distinct : (types.map (·.name)).Nodup) (h : type ∈ types) :
    (types.foldl insert c).find? type.name = some type := by
  induction types using List.reverseRecOn with
  | nil => cases h
  | append_singleton types last ih =>
    rw [List.foldl_append, List.foldl_cons, List.foldl_nil, find?_insert]
    rw [List.map_append, List.map_singleton, ← List.concat_eq_append,
      List.nodup_concat] at distinct
    rcases List.mem_append.1 h with h | h
    · have other : type.name ≠ last.name := fun same =>
        distinct.1 (same ▸ List.mem_map_of_mem h)
      rw [if_neg other, ih distinct.2 h]
    · rw [List.mem_singleton.1 h, if_pos rfl]

/-- Filling a cache with types of different names replaces none of them. -/
theorem ofList_of_distinct (distinct : (types.map (·.name)).Nodup) :
    (ofList types).types = types.reverse := by
  induction types using List.reverseRecOn with
  | nil => rfl
  | append_singleton types last ih =>
    rw [List.map_append, List.map_singleton, ← List.concat_eq_append,
      List.nodup_concat] at distinct
    have kept : types.reverse.filter (fun old => old.name ≠ last.name) = types.reverse := by
      refine List.filter_eq_self.2 fun old mem => ?_
      have other : old.name ≠ last.name := fun same =>
        distinct.1 (same ▸ List.mem_map_of_mem (List.mem_reverse.1 mem))
      simpa using other
    rw [ofList, List.foldl_append, List.foldl_cons, List.foldl_nil]
    show last :: (ofList types).types.filter _ = _
    rw [ih distinct.2, kept, List.reverse_append]
    rfl

end TypeCache

namespace Memory.State

variable {s : State} {name : String}

theorem perm_listTypes (s : State) : s.listTypes.Perm s.types := List.mergeSort_perm _ _

theorem distinct_listTypes (hs : s.TypesKeyed) : (s.listTypes.map (·.name)).Nodup :=
  (s.perm_listTypes.map _).nodup_iff.2 hs

/-- A cache filled from the storage finds what the storage finds. -/
theorem find?_ofList_listTypes (hs : s.TypesKeyed) (name : String) :
    (TypeCache.ofList s.listTypes).find? name = s.findType? name := by
  cases stored : s.findType? name with
  | some type =>
    obtain ⟨mem, rfl⟩ := (findType?_eq_some_iff hs).1 stored
    exact TypeCache.find?_foldl_insert (distinct_listTypes hs) (s.perm_listTypes.mem_iff.2 mem)
  | none =>
    rw [TypeCache.find?, TypeCache.ofList_of_distinct (distinct_listTypes hs)]
    refine List.find?_eq_none.2 fun type mem => ?_
    exact List.find?_eq_none.1 stored type (s.perm_listTypes.mem_iff.1 (List.mem_reverse.1 mem))

theorem size_ofList_listTypes (hs : s.TypesKeyed) :
    (TypeCache.ofList s.listTypes).size = s.types.length := by
  rw [TypeCache.size, TypeCache.ofList_of_distinct (distinct_listTypes hs), List.length_reverse,
    s.perm_listTypes.length_eq]

/-- The names of a filled cache are those of the stored types, in ascending order. -/
theorem names_ofList_listTypes (hs : s.TypesKeyed) :
    (TypeCache.ofList s.listTypes).names.Perm (s.types.map (·.name)) ∧
      (TypeCache.ofList s.listTypes).names.Pairwise (· < ·) := by
  have perm : (TypeCache.ofList s.listTypes).names.Perm (s.types.map (·.name)) := by
    rw [TypeCache.names, TypeCache.ofList_of_distinct (distinct_listTypes hs)]
    exact (List.mergeSort_perm _ _).trans
      (((List.reverse_perm _).trans s.perm_listTypes).map _)
  have distinct : (TypeCache.ofList s.listTypes).names.Pairwise (· ≠ ·) := perm.nodup_iff.2 hs
  refine ⟨perm, ?_⟩
  have sorted : (TypeCache.ofList s.listTypes).names.Pairwise (· ≤ ·) :=
    pairwise_mergeSort_key id _
  exact (sorted.and distinct).imp fun both => lt_of_le_of_ne both.1 both.2

end Memory.State

end WorkQueue
