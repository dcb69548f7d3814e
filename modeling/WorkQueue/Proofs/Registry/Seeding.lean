import WorkQueue.Proofs.Memory.Operations
import WorkQueue.Proofs.Registry.Cached
import WorkQueue.Proofs.Settings.Acceptance

/-!
# Seeding accepted task types

The declared types of accepted settings are exactly what the registry and the storage accept: each entry
is valid, and as no name occurs twice, no entry overwrites another. So seeding succeeds in every storage
that a run has come to, and seeding again changes nothing.

## Main definitions

* `Settings.Seeded`: what is promised once the declared types were seeded

## Main statements

* `TypeRegistry.run_registerAll`, `TypeRegistry.run_seed`, `TypeRegistry.run_load`: the operations of
  the registry in a world
* `Settings.seeded_of_valid`: valid declarations keep the promise
* `Settings.accepted_settings_seed`: what is accepted, what is reported, and what is seeded
-/

namespace WorkQueue

open Simulation

variable (policy : Backoff.Policy) {w : World} {t : NewTaskType} {ts : List NewTaskType}

/-! ### Operations of the registry -/

theorem Simulation.World.Logged.withRows {w w' : World} (h : w.Logged w') (s : Memory.State) :
    (w.withRows s).Logged (w'.withRows s) := by
  obtain ⟨log, events, rfl⟩ := h
  exact ⟨log, events, rfl⟩

namespace TypeRegistry

/-- Runs an operation of the registry with a cache, in a world. -/
def runWith {α : Type} (x : StateT TypeCache Sim α) (c : TypeCache) (w : World) :
    (α × TypeCache) × World := (x.run c).run w

theorem runWith_bind {α β : Type} {x : StateT TypeCache Sim α} {f : α → StateT TypeCache Sim β}
    {c c' : TypeCache} {w w' : World} {a : α} (ran : runWith x c w = ((a, c'), w')) :
    runWith (x >>= f) c w = runWith (f a) c' w' := by
  have split : runWith (x >>= f) c w =
    runWith (f (runWith x c w).1.1) (runWith x c w).1.2 (runWith x c w).2 := rfl
  rw [split, ran]

/-- What the storage does leaves the cache as it is. -/
theorem runWith_lift {α : Type} {x : Sim α} {w w' : World} {a : α} (ran : x.run w = (a, w'))
    (c : TypeCache) : runWith (StateT.lift x) c w = ((a, c), w') := by
  have lifted : runWith (StateT.lift x) c w = (((x.run w).1, c), (x.run w).2) := rfl
  rw [lifted, ran]

/-- A valid type is stored, and cached as it is stored. -/
theorem run_register (valid : t.validate = .ok ()) (c : TypeCache) (w : World) :
    ∃ w', runWith (register (Memory.backend policy) t) c w =
        ((.ok (w.memory.state.registered w.clock t),
          c.insert (w.memory.state.registered w.clock t)), w') ∧
      (w.withRows (w.memory.state.putType (w.memory.state.registered w.clock t))).Logged w' := by
  have stored : ((Memory.backend policy).upsertType t : Sim (Outcome TaskType)).run w =
      (.ok (w.memory.state.registered w.clock t),
        w.withRows (w.memory.state.putType (w.memory.state.registered w.clock t))) := by
    show (Memory.perform (Memory.Update.upsertType t) : Sim (Outcome TaskType)).run w = _
    rw [Memory.run_perform, Memory.State.on_upsertType_of_valid valid]
  rw [register, valid]
  exact ⟨_, (runWith_bind (runWith_lift stored c)).trans rfl, ⟨_, _, rfl⟩⟩

/-- Valid types of different names are stored and cached one after the other. -/
theorem run_registerAll (valid : ∀ t ∈ ts, t.validate = .ok ())
    (distinct : (ts.map (·.name)).Nodup) (c : TypeCache) (w : World) :
    ∃ w', runWith (registerAll (Memory.backend policy) ts) c w =
        ((.ok (ts.map (w.memory.state.registered w.clock)),
          (ts.map (w.memory.state.registered w.clock)).foldl TypeCache.insert c), w') ∧
      (w.withRows (w.memory.state.registerAll w.clock ts)).Logged w' := by
  induction ts generalizing c w with
  | nil => exact ⟨w, rfl, .refl _⟩
  | cons t ts ih =>
    obtain ⟨first, rest⟩ := List.forall_mem_cons.1 valid
    obtain ⟨fresh, distinct⟩ := List.nodup_cons.1 distinct
    obtain ⟨w₁, ran₁, logged₁⟩ := run_register policy first c w
    obtain ⟨w₂, ran₂, logged₂⟩ :=
      ih rest distinct (c.insert (w.memory.state.registered w.clock t)) w₁
    -- the types that follow have other names, so they are registered as if this one had not been
    have unchanged : ts.map (w₁.memory.state.registered w₁.clock) =
        ts.map (w.memory.state.registered w.clock) := by
      refine List.map_congr_left fun t' mem => ?_
      have other : t.name ≠ t'.name := fun same => fresh (List.mem_map.2 ⟨t', mem, same.symm⟩)
      rw [logged₁.rows, logged₁.clock]
      exact Memory.State.registered_putType_of_ne other _
    rw [unchanged] at ran₂
    refine ⟨w₂, ?_, ?_⟩
    · rw [registerAll]
      exact (runWith_bind ran₁).trans (runWith_bind ran₂)
    · have rows := logged₁.withRows (w₁.memory.state.registerAll w₁.clock ts)
      rw [logged₁.rows, logged₁.clock] at rows logged₂
      exact rows.trans logged₂

/-- Seeding is registering every entry. -/
theorem run_seed {entries : List Settings.TaskTypeEntry}
    (valid : ∀ entry ∈ entries, entry.toNew.validate = .ok ())
    (distinct : (entries.map (·.name)).Nodup) (c : TypeCache) (w : World) :
    ∃ w', runWith (seed (Memory.backend policy) entries) c w =
        ((.ok (entries.map fun entry => w.memory.state.registered w.clock entry.toNew),
          (entries.map fun entry => w.memory.state.registered w.clock entry.toNew).foldl
            TypeCache.insert c), w') ∧
      (w.withRows (w.memory.state.registerAll w.clock (entries.map (·.toNew)))).Logged w' := by
  have valid_new : ∀ t ∈ entries.map (·.toNew), t.validate = .ok () := by
    intro t ht
    obtain ⟨entry, mem, rfl⟩ := List.mem_map.1 ht
    exact valid entry mem
  have distinct_new : ((entries.map (·.toNew)).map (·.name)).Nodup := by
    rw [List.map_map]
    exact distinct
  obtain ⟨w₁, ran, logged⟩ := run_registerAll policy valid_new distinct_new c w
  rw [List.map_map] at ran
  exact ⟨_, (runWith_bind ran).trans rfl, logged.trans ⟨_, _, rfl⟩⟩

/-- A name is looked up in the cache, and else in the storage. -/
theorem run_get (name : String) (c : TypeCache) (w : World) :
    (runWith (get (Memory.backend policy) name) c w).1.1 =
      match c.find? name, w.memory.state.findType? name with
      | some type, _ | none, some type => .ok type
      | none, none => .error (.invalidTaskType name) := by
  have looked_up : runWith (StateT.get : StateT TypeCache Sim TypeCache) c w = ((c, c), w) := rfl
  have answered : ((Memory.backend policy).findType name : Sim (Outcome (Option TaskType))).run w =
    (.ok (w.memory.state.findType? name), w) := rfl
  refine (congrArg (·.1.1) (runWith_bind looked_up)).trans ?_
  cases c.find? name with
  | some type => rfl
  | none =>
    refine (congrArg (·.1.1) (runWith_bind (runWith_lift answered c))).trans ?_
    cases w.memory.state.findType? name with
    | some type => rfl
    | none => rfl

/-- Loading fills the cache from the stored types. -/
theorem run_load (c : TypeCache) (w : World) :
    ∃ w', runWith (load (Memory.backend policy)) c w =
        ((.ok (TypeCache.ofList w.memory.state.listTypes).size,
          .ofList w.memory.state.listTypes), w') ∧ w.Logged w' :=
  ⟨_, rfl, ⟨_, _, rfl⟩⟩

end TypeRegistry

namespace Settings

open TypeRegistry

variable {s : Settings} {state : Memory.State} {history : List Memory.Exchange}
  {entries : List TaskTypeEntry}

/-- What is promised once declared types were seeded into the rows that a world had before. -/
structure Seeded (policy : Backoff.Policy) (entries : List TaskTypeEntry) (before after : World)
    (stored : List TaskType) (cache : TypeCache) : Prop where
  /-- The types are returned in the order of the settings, each with its policy. A name that was known
  keeps its creation instant. -/
  stored_eq : stored = entries.map fun entry => entry.toNew.registeredAt
    (((before.memory.state.findType? entry.name).map (·.createdAt)).getD before.clock)
  found : ∀ type ∈ stored, after.memory.state.findType? type.name = some type
  cached : ∀ type ∈ stored, cache.find? type.name = some type
  others : ∀ name, name ∉ entries.map (·.name) →
    after.memory.state.findType? name = before.memory.state.findType? name
  tasks : after.memory.state.tasks = before.memory.state.tasks
  edges : after.memory.state.edges = before.memory.state.edges
  /-- Loading counts the stored types, and caches their names in ascending order. -/
  load : ∀ c, ∃ loaded w', runWith (TypeRegistry.load (Memory.backend policy)) c after =
      ((.ok after.memory.state.types.length, loaded), w') ∧
    w'.memory.state = after.memory.state ∧
    loaded.names.Perm (after.memory.state.types.map (·.name)) ∧ loaded.names.Pairwise (· < ·)
  /-- Seeding once more, with any cache and at any time, returns the same and changes nothing. -/
  again : ∀ w c, w.memory.state = after.memory.state →
    ∃ c' w', runWith (seed (Memory.backend policy) entries) c w = ((.ok stored, c'), w') ∧
      w'.memory.state = after.memory.state

/-- Valid types are seeded into rows whose types have distinct names. -/
theorem seeded_of_valid (types : TypesValid entries) {w : World}
    (keyed : w.memory.state.TypesKeyed) (c : TypeCache) :
    ∃ stored cache w', runWith (seed (Memory.backend policy) entries) c w =
        ((.ok stored, cache), w') ∧ Seeded policy entries w w' stored cache := by
  have valid : ∀ entry ∈ entries, entry.toNew.validate = .ok () :=
    fun entry mem => NewTaskType.validate_eq_ok_iff.2 (types.valid entry mem)
  have distinct_new : ((entries.map (·.toNew)).map (·.name)).Nodup := by
    rw [List.map_map]
    exact types.distinct
  obtain ⟨w', ran, logged⟩ := run_seed policy valid types.distinct c w
  have rows : w'.memory.state = w.memory.state.registerAll w.clock (entries.map (·.toNew)) :=
    logged.rows
  have keyed' : w'.memory.state.TypesKeyed := rows ▸ keyed.registerAll
  refine ⟨_, _, w', ran, rfl, ?_, ?_, ?_, ?_, ?_, ?_, ?_⟩
  · intro type mem
    obtain ⟨entry, declared, rfl⟩ := List.mem_map.1 mem
    rw [rows]
    exact Memory.State.findType?_registerAll distinct_new (List.mem_map_of_mem declared)
  · intro type mem
    refine TypeCache.find?_foldl_insert ?_ mem
    rw [List.map_map]
    exact types.distinct
  · intro name unnamed
    rw [rows]
    refine Memory.State.findType?_registerAll_of_notMem ?_
    rw [List.map_map]
    exact unnamed
  · rw [rows, Memory.State.registerAll_tasks]
  · rw [rows, Memory.State.registerAll_edges]
  · intro c
    obtain ⟨w'', ran, logged⟩ := run_load policy c w'
    obtain ⟨names, sorted⟩ := Memory.State.names_ofList_listTypes keyed'
    rw [Memory.State.size_ofList_listTypes keyed'] at ran
    exact ⟨_, w'', ran, logged.rows, names, sorted⟩
  · intro w₂ c same
    obtain ⟨w₃, ran, logged⟩ := run_seed policy valid types.distinct c w₂
    have same_stored : (entries.map fun entry => w₂.memory.state.registered w₂.clock entry.toNew) =
        entries.map fun entry => w.memory.state.registered w.clock entry.toNew := by
      refine List.map_congr_left fun entry mem => ?_
      rw [same, rows]
      exact Memory.State.registered_registerAll distinct_new (List.mem_map_of_mem mem)
    rw [same_stored] at ran
    refine ⟨_, w₃, ran, ?_⟩
    rw [logged.rows, World.withRows_state, same, rows]
    exact Memory.State.registerAll_again keyed distinct_new

/-- **Accepted settings can be seeded.** Settings are accepted if and only if all their values keep the
bounds, and the declared types are valid and have different names; a fault among the types is reported
with the first one at fault. Accepted types can be seeded into every storage in memory that a run has
come to. -/
theorem accepted_settings_seed :
    (∀ s : Settings, s.validate = .ok () ↔ s.SectionsValid ∧ TypesValid s.taskTypes) ∧
    (∀ (s : Settings) (value context : String),
      s.validate = .error (.invalidValue "task_types" value context) ↔
        s.SectionsValid ∧ ∃ before entry after, s.taskTypes = before ++ entry :: after ∧
          TypesValid before ∧ Faulty (before.map (·.name)) entry context ∧ value = entry.name) ∧
    ∀ s : Settings, s.validate = .ok () →
      ∀ (policy : Backoff.Policy) (history : List Memory.Exchange) (state : Memory.State)
        (order : List Task), Memory.Run policy {} history state → order.Perm state.tasks →
      ∀ (w : World) (c : TypeCache), w.memory.state = state.visiting order →
      ∃ stored cache w', runWith (seed (Memory.backend policy) s.taskTypes) c w =
          ((.ok stored, cache), w') ∧ Seeded policy s.taskTypes w w' stored cache := by
  refine ⟨fun _ => validate_eq_ok_iff, fun _ _ _ => validate_eq_error_iff, ?_⟩
  intro s accepted policy history state order run _ w c rows
  have keyed : w.memory.state.TypesKeyed := by
    rw [rows]
    exact run.typesKeyed
  exact seeded_of_valid policy (validate_eq_ok_iff.1 accepted).2 keyed c

/-- Two declared types. -/
def mailAndBills : Settings :=
  { taskTypes := [⟨"mail", 3, 60, none⟩, ⟨"bill", 5, 30, some "monthly"⟩] }

/-- Mail was registered first of all. -/
def mailCalls : List Memory.Call := [.upsertType ⟨"mail", 2, 5, none⟩ .epoch]

/-- An hour later. -/
def mailWorld : World where
  storage := .memory
  policy := {}
  clock := Memory.hourLater
  memory := { state := (Memory.replay {} {} mailCalls).2 }

/-- The two types are seeded into a storage that knows one of them, with another policy. -/
theorem accepted_settings_seed_of_mail : ∃ stored cache w',
    mailAndBills.validate = .ok () ∧
      mailWorld.memory.state.types = [⟨"mail", 2, 5, none, .epoch⟩] ∧
      runWith (seed (Memory.backend {}) mailAndBills.taskTypes) {} mailWorld =
        ((.ok stored, cache), w') ∧
      Seeded {} mailAndBills.taskTypes mailWorld w' stored cache ∧
      stored = [⟨"mail", 3, 60, none, .epoch⟩,
        ⟨"bill", 5, 30, some "monthly", Memory.hourLater⟩] := by
  have run : Memory.Run {} {} (Memory.replay {} {} mailCalls).1 (Memory.replay {} {} mailCalls).2 :=
    Memory.run_replay (by decide +kernel)
  have accepted : mailAndBills.validate = .ok () := by rfl
  obtain ⟨stored, cache, w', ran, seeded⟩ := accepted_settings_seed.2.2 mailAndBills accepted {} _ _ _
    run (List.Perm.refl _) mailWorld {} rfl
  refine ⟨stored, cache, w', accepted, by rfl, ran, seeded, seeded.stored_eq.trans ?_⟩
  decide +kernel

end Settings

end WorkQueue
