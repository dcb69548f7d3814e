import WorkQueue.Json
import Mathlib.Data.String.Basic

/-!
# Stored forms of JSON values

Normalizing a value again changes nothing. After one pass the members of every object ascend by key
and hold normalized values, and a second pass puts each member behind the ones before it.

## Main definitions

* `Json.Settled`: members that a pass leaves as they are

## Main statements

* `Json.normalize_normalize`: one pass is enough
-/

namespace WorkQueue.Json

variable {key : String} {value : Json} {members sorted rest : List (String × Json)}

/-- Members in ascending order of keys, with values that are in stored form. -/
structure Settled (members : List (String × Json)) : Prop where
  ascending : members.Pairwise fun a b => a.1 < b.1
  stored : ∀ m ∈ members, m.2.normalize = m.2

theorem Settled.nil : Settled [] := ⟨List.Pairwise.nil, by simp⟩

theorem mem_insertMember {m : String × Json} (h : m ∈ insertMember key value members) :
    m = (key, value) ∨ m ∈ members := by
  induction members with
  | nil => simpa [insertMember] using h
  | cons head tail ih =>
    rw [insertMember] at h
    split at h
    · simpa using h
    · split at h
      · rcases List.mem_cons.1 h with rfl | h
        · exact .inl rfl
        · exact .inr (List.mem_cons_of_mem _ h)
      · rcases List.mem_cons.1 h with rfl | h
        · exact .inr List.mem_cons_self
        · exact (ih h).imp_right (List.mem_cons_of_mem _)

theorem ascending_insertMember (h : members.Pairwise fun a b => a.1 < b.1) :
    (insertMember key value members).Pairwise fun a b => a.1 < b.1 := by
  induction members with
  | nil => simp [insertMember]
  | cons head tail ih =>
    obtain ⟨hhead, htail⟩ := List.pairwise_cons.1 h
    rw [insertMember]
    split
    · rename_i hlt
      refine List.pairwise_cons.2 ⟨?_, h⟩
      intro m hm
      rcases List.mem_cons.1 hm with rfl | hm
      · exact hlt
      · exact hlt.trans (hhead m hm)
    · rename_i hge
      split
      · rename_i heq
        exact List.pairwise_cons.2 ⟨fun m hm => heq ▸ hhead m hm, htail⟩
      · rename_i hne
        refine List.pairwise_cons.2 ⟨?_, ih htail⟩
        intro m hm
        rcases mem_insertMember hm with rfl | hm
        · exact lt_of_le_of_ne (not_lt.1 hge) hne
        · exact hhead m hm

theorem Settled.insertMember (h : Settled members) (hvalue : value.normalize = value) :
    Settled (insertMember key value members) := by
  refine ⟨ascending_insertMember h.ascending, ?_⟩
  intro m hm
  rcases mem_insertMember hm with rfl | hm
  · exact hvalue
  · exact h.stored m hm

/-- A key above all others goes to the end. -/
theorem insertMember_last (h : ∀ m ∈ members, m.1 < key) :
    Json.insertMember key value members = members ++ [(key, value)] := by
  induction members with
  | nil => rfl
  | cons head tail ih =>
    have hhead : head.1 < key := h head List.mem_cons_self
    rw [Json.insertMember, if_neg hhead.not_gt, if_neg hhead.ne,
      ih fun m hm => h m (List.mem_cons_of_mem _ hm)]
    rfl

/-- A pass over settled members adds them one after the other. -/
theorem Settled.normalizeMembers_eq (h : Settled (sorted ++ members)) :
    normalizeMembers members sorted = sorted ++ members := by
  induction members generalizing sorted with
  | nil => simp [normalizeMembers]
  | cons head tail ih =>
    have hlast : ∀ m ∈ sorted, m.1 < head.1 := by
      intro m hm
      exact (List.pairwise_append.1 h.ascending).2.2 m hm head List.mem_cons_self
    have hstored : head.2.normalize = head.2 := h.stored head (by simp)
    have hsplit : sorted ++ head :: tail = (sorted ++ [head]) ++ tail := by simp
    rw [normalizeMembers, hstored, insertMember_last hlast, hsplit]
    exact ih (hsplit ▸ h)

mutual

/-- A value in stored form stays as it is. -/
theorem normalize_normalize : ∀ j : Json, j.normalize.normalize = j.normalize
  | .null => rfl
  | .bool _ => rfl
  | .number _ => rfl
  | .text _ => rfl
  | .array items => by
    rw [normalize, normalize, normalizeItems_normalizeItems items]
  | .object members => by
    have h : normalizeMembers (normalizeMembers members []) [] = normalizeMembers members [] :=
      (settled_normalizeMembers members .nil).normalizeMembers_eq
    rw [normalize, normalize, h]

theorem normalizeItems_normalizeItems :
    ∀ items : List Json, normalizeItems (normalizeItems items) = normalizeItems items
  | [] => rfl
  | item :: rest => by
    rw [normalizeItems, normalizeItems, normalize_normalize item,
      normalizeItems_normalizeItems rest]

theorem settled_normalizeMembers : ∀ (members : List (String × Json)) {sorted},
    Settled sorted → Settled (normalizeMembers members sorted)
  | [], _, h => h
  | (_, v) :: rest, _, h =>
    settled_normalizeMembers rest (h.insertMember (normalize_normalize v))

end

end WorkQueue.Json
