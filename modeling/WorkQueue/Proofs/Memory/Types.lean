import WorkQueue.Proofs.Memory.Run

/-!
# Stored task types

At most one type is stored under each name. Registering a type replaces the one of its name and keeps
its creation instant, so to register a type again changes nothing, whatever the time is then.

## Main definitions

* `Memory.State.TypesKeyed`: no two types share a name
* `Memory.State.registered`: the row of a type that is registered
* `Memory.State.registerAll`: types registered one after the other

## Main statements

* `Memory.Run.typesKeyed`: names are distinct in every run
* `Memory.State.findType?_registerAll`: what is found after types were registered
* `Memory.State.registerAll_again`: registering them again changes nothing
-/

namespace WorkQueue.Memory

variable {policy : Backoff.Policy} {s s' : State} {history : List Exchange} {x : Exchange}
  {call : Call} {reply : Reply} {type : TaskType} {name : String} {now clock : Timestamp}
  {t : NewTaskType} {ts : List NewTaskType}

namespace State

/-- No two types share a name. -/
def TypesKeyed (s : State) : Prop := (s.types.map (·.name)).Nodup

theorem names_putType : (s.putType type).types.map (·.name) =
    if type.name ∈ s.types.map (·.name) then s.types.map (·.name)
    else s.types.map (·.name) ++ [type.name] := by
  have known_iff : (s.types.any fun old => old.name = type.name) ↔
      type.name ∈ s.types.map (·.name) := by simp
  simp only [putType, known_iff]
  split
  · rw [List.map_map]
    refine List.map_congr_left fun old _ => ?_
    simp only [Function.comp_apply]
    split
    · rename_i same
      exact same.symm
    · rfl
  · rw [List.map_append, List.map_singleton]

theorem TypesKeyed.putType (hs : s.TypesKeyed) : (s.putType type).TypesKeyed := by
  rw [TypesKeyed, names_putType]
  split
  · exact hs
  · rename_i fresh
    rw [← List.concat_eq_append]
    exact hs.concat fresh

theorem findType?_eq_some_iff (hs : s.TypesKeyed) :
    s.findType? name = some type ↔ type ∈ s.types ∧ type.name = name := by
  constructor
  · intro found
    exact ⟨List.mem_of_find?_eq_some found, by simpa using List.find?_some found⟩
  · rintro ⟨stored, rfl⟩
    cases found : s.findType? type.name with
    | none => simpa using List.find?_eq_none.1 found type stored
    | some other =>
      have same : other.name = type.name := by simpa using List.find?_some found
      rw [List.inj_on_of_nodup_map hs (List.mem_of_find?_eq_some found) stored same]

/-- Storing a row that is stored already changes nothing. -/
theorem putType_self (hs : s.TypesKeyed) (known : s.findType? type.name = some type) :
    s.putType type = s := by
  obtain ⟨stored, -⟩ := (findType?_eq_some_iff hs).1 known
  have any : (s.types.any fun old => old.name = type.name) = true :=
    List.any_eq_true.2 ⟨type, stored, by simp⟩
  have kept : (s.types.map fun old => if old.name = type.name then type else old) = s.types := by
    refine (List.map_congr_left fun old mem => ?_).trans (List.map_id _)
    split
    · rename_i same
      exact List.inj_on_of_nodup_map hs stored mem same.symm
    · rfl
  rw [putType, if_pos any, kept]

@[simp] theorem putType_tasks (s : State) (type : TaskType) : (s.putType type).tasks = s.tasks := rfl

@[simp] theorem putType_edges (s : State) (type : TaskType) : (s.putType type).edges = s.edges := rfl

/-! ### Registering types -/

/-- The row of a type that is registered: it keeps the creation instant of the one before. -/
def registered (s : State) (now : Timestamp) (t : NewTaskType) : TaskType :=
  t.registeredAt (((s.findType? t.name).map (·.createdAt)).getD now)

@[simp] theorem registered_name (s : State) (now : Timestamp) (t : NewTaskType) :
    (s.registered now t).name = t.name := rfl

theorem on_upsertType_of_valid (valid : t.validate = .ok ()) (now : Timestamp) :
    (Update.upsertType t now).on s = (.ok (s.registered now t), s.putType (s.registered now t)) := by
  rw [Update.on_upsertType, valid]
  rfl

theorem eq_of_on_upsertType_eq_ok (accepted : (Update.upsertType t now).on s = (.ok type, s')) :
    type = s.registered now t ∧ s' = s.putType type := by
  cases valid : t.validate with
  | error failure => simp [Update.on_upsertType, valid] at accepted
  | ok _ =>
    rw [on_upsertType_of_valid valid] at accepted
    cases accepted
    exact ⟨rfl, rfl⟩

theorem registered_putType_of_ne (other : type.name ≠ t.name) (now : Timestamp) :
    (s.putType type).registered now t = s.registered now t := by
  rw [registered, findType?_putType, if_neg other.symm, registered]

/-- A type that is stored with the same policy is stored again as it is. -/
theorem registered_of_found {createdAt : Timestamp}
    (found : s.findType? t.name = some (t.registeredAt createdAt)) (clock : Timestamp) :
    s.registered clock t = t.registeredAt createdAt := by
  rw [registered, found]
  rfl

/-- The rows after types were registered one after the other. -/
def registerAll (s : State) (now : Timestamp) (ts : List NewTaskType) : State :=
  ts.foldl (fun s t => s.putType (s.registered now t)) s

@[simp] theorem registerAll_cons (s : State) (now : Timestamp) (t : NewTaskType)
    (ts : List NewTaskType) :
    s.registerAll now (t :: ts) = (s.putType (s.registered now t)).registerAll now ts := rfl

@[simp] theorem registerAll_tasks (s : State) (now : Timestamp) (ts : List NewTaskType) :
    (s.registerAll now ts).tasks = s.tasks := by
  induction ts generalizing s with
  | nil => rfl
  | cons t ts ih => rw [registerAll_cons, ih, putType_tasks]

@[simp] theorem registerAll_edges (s : State) (now : Timestamp) (ts : List NewTaskType) :
    (s.registerAll now ts).edges = s.edges := by
  induction ts generalizing s with
  | nil => rfl
  | cons t ts ih => rw [registerAll_cons, ih, putType_edges]

theorem TypesKeyed.registerAll (hs : s.TypesKeyed) : (s.registerAll now ts).TypesKeyed := by
  induction ts generalizing s with
  | nil => exact hs
  | cons t ts ih => exact ih hs.putType

theorem findType?_registerAll_of_notMem (h : name ∉ ts.map (·.name)) :
    (s.registerAll now ts).findType? name = s.findType? name := by
  induction ts generalizing s with
  | nil => rfl
  | cons t ts ih =>
    rw [List.map_cons, List.mem_cons, not_or] at h
    rw [registerAll_cons, ih h.2, findType?_putType, registered_name, if_neg h.1]

/-- Of registered types with distinct names, each one is found. -/
theorem findType?_registerAll (distinct : (ts.map (·.name)).Nodup) (h : t ∈ ts) :
    (s.registerAll now ts).findType? t.name = some (s.registered now t) := by
  induction ts generalizing s with
  | nil => cases h
  | cons first ts ih =>
    obtain ⟨fresh, distinct⟩ := List.nodup_cons.1 distinct
    rw [registerAll_cons]
    rcases List.mem_cons.1 h with rfl | h
    · rw [findType?_registerAll_of_notMem fresh, findType?_putType, registered_name, if_pos rfl]
    · have other : first.name ≠ t.name := fun same => fresh (List.mem_map.2 ⟨t, h, same.symm⟩)
      rw [ih distinct h, registered_putType_of_ne other]

/-- Types that are stored as they would be registered may be registered without any effect. -/
theorem registerAll_of_found (hs : s.TypesKeyed)
    (found : ∀ t ∈ ts, s.findType? t.name = some (s.registered clock t)) :
    s.registerAll clock ts = s := by
  induction ts with
  | nil => rfl
  | cons t ts ih =>
    obtain ⟨first, rest⟩ := List.forall_mem_cons.1 found
    rw [registerAll_cons, putType_self hs first, ih rest]

theorem registered_registerAll (distinct : (ts.map (·.name)).Nodup) (h : t ∈ ts) :
    (s.registerAll now ts).registered clock t = s.registered now t :=
  registered_of_found (findType?_registerAll distinct h) clock

/-- To register types again changes nothing, whatever the time is then. -/
theorem registerAll_again (hs : s.TypesKeyed) (distinct : (ts.map (·.name)).Nodup) :
    (s.registerAll now ts).registerAll clock ts = s.registerAll now ts := by
  refine registerAll_of_found hs.registerAll fun t ht => ?_
  rw [registered_registerAll distinct ht, findType?_registerAll distinct ht]

end State

/-! ### Names in runs -/

theorem Change.typesKeyed (c : Change policy s call reply s') (hs : s.TypesKeyed) :
    s'.TypesKeyed := by
  cases c with
  | refused | enqueued | chained | linkedBefore | linked | moved => exact hs
  | registered => exact hs.putType
  | claimed worker limit now =>
    have types_eq : (s.claim worker limit now).2.types = s.types := State.foldl_put_types _ _
    rw [State.TypesKeyed, types_eq]
    exact hs

theorem Step.typesKeyed (step : Step policy s x s') (hs : s.TypesKeyed) : s'.TypesKeyed := by
  obtain ⟨order, -, -, c⟩ := step.change
  exact c.typesKeyed hs

theorem Run.typesKeyed (run : Run policy {} history s) : s.TypesKeyed := by
  induction run with
  | nil => exact List.nodup_nil
  | snoc _ step ih => exact step.typesKeyed ih

end WorkQueue.Memory
