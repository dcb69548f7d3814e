import WorkQueue.Proofs.Memory.Edges
import WorkQueue.Proofs.Memory.Operations

/-!
# Operations that fail

Every operation checks its arguments in stages and writes in several places, and nothing that it has
written is taken back when it fails. One that fails has written nothing yet: neither rows nor log
differ from before, whatever failed. A chain is stored as a whole, after all its requests have been
accepted; otherwise the first bad request is reported.

## Main definitions

* `Memory.AllOrNothing`: an operation that fails leaves the storage as it was
* `Memory.ChainAdded`: what a stored chain adds
* `Memory.FailuresChangeNothing`: both, for every operation that writes

## Main statements

* `Memory.mapM_eq_error_iff`: the failure of a list is that of its first bad item
* `Memory.run_createChain`: how a chain is stored
* `Memory.failures_change_nothing`: operations that fail change nothing
-/

namespace WorkQueue.Memory

open Simulation

variable {α β : Type} {s : State} {policy : Backoff.Policy} {w w' : World} {specs : List NewTask}
  {ts : List Task}

/-! ### Operations of one update -/

/-- If the operation fails, rows and log are as they were before it. -/
def AllOrNothing (operation : Sim (Outcome α)) : Prop :=
  ∀ w failure w', operation.run w = (.error failure, w') → w'.memory = w.memory

theorem AllOrNothing.of_cases {operation : Sim (Outcome α)}
    (cases : ∀ w, (∃ a, (operation.run w).1 = .ok a) ∨ (operation.run w).2.memory = w.memory) :
    AllOrNothing operation := by
  intro w failure w' h
  rcases cases w with ⟨a, succeeded⟩ | kept
  · rw [h] at succeeded
    cases succeeded
  · rwa [h] at kept

/-- An operation fails with its update, and stores the rows that the update leaves. -/
theorem allOrNothing_perform {update : Timestamp → Update α}
    (law : ∀ now, (update now).AllOrNothing) :
    AllOrNothing (perform update : Sim (Outcome α)) := by
  refine .of_cases fun w => ?_
  rw [run_perform]
  rcases (law w.clock).ok_or_kept w.memory.state with ⟨a, s, ok⟩ | ⟨failure, refused⟩
  · exact .inl ⟨a, congrArg Prod.fst ok⟩
  · rw [refused]
    exact .inr rfl

theorem allOrNothing_performTransition (transition : Transition) {update : Timestamp → Update Task}
    (law : ∀ now, (update now).AllOrNothing) :
    AllOrNothing (performTransition transition update : Sim (Outcome Task)) := by
  refine .of_cases fun w => ?_
  -- log entries are written only once the update has succeeded
  rw [run_performTransition]
  rcases (law w.clock).ok_or_kept w.memory.state with ⟨t, s, ok⟩ | ⟨failure, refused⟩
  · rw [ok]
    exact .inl ⟨t, rfl⟩
  · rw [refused]
    exact .inr rfl

/-- A request is checked before an identifier is drawn for it, and again when it is stored. -/
theorem run_enqueue (spec : NewTask) (w : World) : (enqueue spec : Sim (Outcome Task)).run w =
    (match w.memory.state.prepare spec with
    | .error failure => (pure (.error failure) : Sim (Outcome Task))
    | .ok _ => do
      let id ← Host.freshId
      match ← perform (Update.enqueue spec id) with
      | .error failure => return .error failure
      | .ok t =>
        Host.report .debug "task_queue::store::memory" "Task enqueued"
          [("task_id", .shown (toString t.id))]
        return .ok t).run w := rfl

theorem allOrNothing_enqueue (spec : NewTask) :
    AllOrNothing (enqueue spec : Sim (Outcome Task)) := by
  refine .of_cases fun w => ?_
  rw [run_enqueue]
  cases w.memory.state.prepare spec with
  | error failure => exact .inr rfl
  | ok checked =>
    simp only [run_bind]
    -- drawing an identifier leaves rows and log alone, so the second check decides
    generalize drawn : (Host.freshId : Sim Uuid).run w = d
    have untouched : d.2.memory = w.memory := drawn ▸ rfl
    have law := allOrNothing_perform fun now => @Update.allOrNothing_enqueue spec d.1 now
    cases stored : (perform (Update.enqueue spec d.1) : Sim (Outcome Task)).run d.2 with
    | mk result w₁ =>
      cases result with
      | error failure => exact .inr ((law _ _ _ stored).trans untouched)
      | ok t => exact .inl ⟨t, rfl⟩

/-! ### Chains -/

theorem exists_first_cons {good bad : α → Prop} {a : α} {as : List α} :
    (∃ before b after, a :: as = before ++ b :: after ∧ (∀ c ∈ before, good c) ∧ bad b) ↔
      bad a ∨ good a ∧
        ∃ before b after, as = before ++ b :: after ∧ (∀ c ∈ before, good c) ∧ bad b := by
  constructor
  · rintro ⟨before, b, after, split, accepted, refused⟩
    cases before with
    | nil =>
      obtain ⟨rfl, -⟩ := List.cons.inj split
      exact .inl refused
    | cons c before =>
      obtain ⟨rfl, rest⟩ := List.cons.inj split
      rw [List.forall_mem_cons] at accepted
      exact .inr ⟨accepted.1, before, b, after, rest, accepted.2, refused⟩
  · rintro (refused | ⟨accepted, before, b, after, rfl, others, refused⟩)
    · exact ⟨[], a, as, rfl, by simp, refused⟩
    · exact ⟨a :: before, b, after, rfl, List.forall_mem_cons.2 ⟨accepted, others⟩, refused⟩

/-- The failure of a list of requests is that of the first one that fails. -/
theorem mapM_eq_error_iff {f : α → Outcome β} {as : List α} {failure : Failure} :
    as.mapM f = .error failure ↔ ∃ before a after, as = before ++ a :: after ∧
      (∀ b ∈ before, ∃ c, f b = .ok c) ∧ f a = .error failure := by
  induction as with
  | nil => simp [pure, Except.pure]
  | cons a as ih =>
    rw [List.mapM_cons, exists_first_cons, ← ih]
    cases f a with
    | error failure' => simp [bind, Except.bind]
    | ok checked =>
      cases as.mapM f with
      | error failure' => simp [bind, Except.bind]
      | ok checked' => simp [bind, Except.bind, pure, Except.pure]

/-- The identifiers that are drawn for a list of requests. -/
def drawnIds (specs : List NewTask) (w : World) : List Uuid :=
  ((specs.mapM fun _ => (Host.freshId : Sim Uuid)).run w).1

theorem drawnIds_cons (spec : NewTask) (specs : List NewTask) (w : World) :
    drawnIds (spec :: specs) w = ((Host.freshId : Sim Uuid).run w).1 ::
      drawnIds specs ((Host.freshId : Sim Uuid).run w).2 := by
  rw [drawnIds, List.mapM_cons, run_bind, run_bind]
  rfl

theorem length_drawnIds (specs : List NewTask) (w : World) :
    (drawnIds specs w).length = specs.length := by
  induction specs generalizing w with
  | nil => rfl
  | cons spec specs ih => rw [drawnIds_cons, List.length_cons, List.length_cons, ih]

/-- Identifiers are drawn one for each request; nothing else happens meanwhile. -/
theorem run_drawIds (specs : List NewTask) (w : World) :
    (specs.mapM fun _ => (Host.freshId : Sim Uuid)).run w =
      (drawnIds specs w, { w with drawn := w.drawn + specs.length }) := by
  induction specs generalizing w with
  | nil => rfl
  | cons spec specs ih =>
    have count : w.drawn + (spec :: specs).length = w.drawn + 1 + specs.length := by
      rw [List.length_cons]
      omega
    rw [drawnIds_cons, List.mapM_cons, run_bind, run_bind, ih, count]
    rfl

/-- A chain is stored in one step after all its requests have been accepted. -/
theorem run_createChain (specs : List NewTask) (w : World) :
    (createChain specs : Sim (Outcome (List Task))).run w =
      match specs.mapM w.memory.state.prepare with
      | .error failure => (.error failure, w)
      | .ok checked =>
        (.ok (chainRows checked (drawnIds specs w) w.clock),
          { w with drawn := w.drawn + specs.length }.withRows
            (w.memory.state.addChain (chainRows checked (drawnIds specs w) w.clock) w.clock)) := by
  have checked : (createChain specs : Sim (Outcome (List Task))).run w =
      (match specs.mapM w.memory.state.prepare with
      | .error failure => (pure (.error failure) : Sim (Outcome (List Task)))
      | .ok _ => do
        let ids ← specs.mapM fun _ => (Host.freshId : Sim Uuid)
        perform (Update.createChain specs ids)).run w := rfl
  rw [checked]
  cases accepted : specs.mapM w.memory.state.prepare with
  | error failure => rfl
  | ok checked =>
    simp only
    rw [run_bind, run_drawIds, run_perform]
    simp only [Update.on_createChain_of_accepted accepted]

theorem allOrNothing_createChain (specs : List NewTask) :
    AllOrNothing (createChain specs : Sim (Outcome (List Task))) := by
  refine .of_cases fun w => ?_
  rw [run_createChain]
  cases specs.mapM w.memory.state.prepare with
  | error failure => exact .inr rfl
  | ok checked => exact .inl ⟨_, rfl⟩

theorem createChain_error_iff {failure : Failure} :
    ((createChain specs : Sim (Outcome (List Task))).run w).1 = .error failure ↔
      ∃ before spec after, specs = before ++ spec :: after ∧
        (∀ earlier ∈ before, ∃ checked, w.memory.state.prepare earlier = .ok checked) ∧
          w.memory.state.prepare spec = .error failure := by
  rw [run_createChain, ← mapM_eq_error_iff]
  cases specs.mapM w.memory.state.prepare with
  | error failure' => simp
  | ok checked => simp

/-- The rows of a chain are the ones that its requests describe, in their order. -/
theorem forall₂_chainRows {checked : List NewTask} {ids : List Uuid} (now : Timestamp)
    (accepted : List.Forall₂ (fun spec spec' => s.prepare spec = .ok spec') specs checked)
    (length_eq : ids.length = specs.length) :
    List.Forall₂ (fun spec t => ∃ spec', s.prepare spec = .ok spec' ∧ t = Task.ofNew spec' t.id now)
      specs (chainRows checked ids now) := by
  induction accepted generalizing ids with
  | nil =>
    rw [List.eq_nil_of_length_eq_zero length_eq]
    exact .nil
  | cons head _ ih =>
    cases ids with
    | nil => simp at length_eq
    | cons id ids => exact .cons ⟨_, head, rfl⟩ (ih (Nat.succ.inj length_eq))

/-- What a stored chain of tasks adds. -/
structure ChainAdded (specs : List NewTask) (ts : List Task) (w w' : World) : Prop where
  /-- One pending task for each request, in their order. -/
  rows : List.Forall₂ (fun spec t => t.status = .pending ∧
    ∃ checked, w.memory.state.prepare spec = .ok checked ∧ t = Task.ofNew checked t.id w.clock)
      specs ts
  /-- These are the new tasks. -/
  tasks_eq : w'.memory.state.tasks = w.memory.state.tasks ++ ts
  /-- The new edges link each of them to the one before it. -/
  edges_eq : w'.memory.state.edges = w.memory.state.edges ++
    ts.zipWith (fun a b => ⟨b.id, a.id, w.clock⟩) ts.tail
  /-- There is one edge less than there are requests. -/
  edges_length : w'.memory.state.edges.length =
    w.memory.state.edges.length + (specs.length - 1)
  types_eq : w'.memory.state.types = w.memory.state.types
  log_eq : w'.memory.log = w.memory.log
  /-- Under new identifiers each new task is found, and every other identifier finds what it did. -/
  found : w.memory.state.Keyed → (ts.map (·.id)).Nodup →
    (∀ t ∈ ts, w.memory.state.find? t.id = none) →
      (∀ t ∈ ts, w'.memory.state.find? t.id = some t) ∧
        ∀ id ∉ ts.map (·.id), w'.memory.state.find? id = w.memory.state.find? id

theorem chainAdded_of_run
    (h : (createChain specs : Sim (Outcome (List Task))).run w = (.ok ts, w')) :
    ChainAdded specs ts w w' := by
  have length_eq := length_drawnIds specs w
  rw [run_createChain] at h
  cases accepted : specs.mapM w.memory.state.prepare with
  | error failure =>
    rw [accepted] at h
    cases h
  | ok checked =>
    rw [accepted] at h
    cases h
    have rows := forall₂_chainRows w.clock (mapM_eq_ok_iff.1 accepted) length_eq
    have edges_eq := State.chainEdges_eq_zipWith w.clock
      (chainRows checked (drawnIds specs w) w.clock)
    constructor
    · refine rows.imp fun spec t => ?_
      rintro ⟨spec', good, built⟩
      refine ⟨?_, spec', good, built⟩
      rw [built]
      rfl
    · rfl
    · exact congrArg _ edges_eq
    · have count := rows.length_eq
      simp [State.addChain, edges_eq, count]
    · rfl
    · rfl
    · intro keyed nodup fresh
      exact ⟨fun t ht => State.find?_insert_of_mem (keyed.insert nodup fresh) ht,
        fun id other => State.find?_insert_of_notMem other⟩

/-! ### All operations -/

/-- What is promised of the operations that write. -/
structure FailuresChangeNothing (storage : Backend Sim) : Prop where
  enqueue : ∀ spec, AllOrNothing (storage.enqueue spec)
  createChain : ∀ specs, AllOrNothing (storage.createChain specs)
  addDependency : ∀ task prerequisite, AllOrNothing (storage.addDependency task prerequisite)
  start : ∀ id, AllOrNothing (storage.start id)
  complete : ∀ id, AllOrNothing (storage.complete id)
  fail : ∀ id message, AllOrNothing (storage.fail id message)
  cancel : ∀ id, AllOrNothing (storage.cancel id)
  upsertType : ∀ type, AllOrNothing (storage.upsertType type)
  /-- A chain is refused if and only if one of its requests is, with the failure of the first one. -/
  createChain_error_iff : ∀ specs w failure,
    ((storage.createChain specs).run w).1 = .error failure ↔
      ∃ before spec after, specs = before ++ spec :: after ∧
        (∀ earlier ∈ before, ∃ checked, w.memory.state.prepare earlier = .ok checked) ∧
          w.memory.state.prepare spec = .error failure
  /-- Otherwise it is stored as a whole. -/
  createChain_ok : ∀ specs w ts w', (storage.createChain specs).run w = (.ok ts, w') →
    ChainAdded specs ts w w'

/-- Operations of the storage in memory that fail change nothing, in any world. -/
theorem failures_change_nothing (policy : Backoff.Policy) :
    FailuresChangeNothing (backend policy) where
  enqueue := allOrNothing_enqueue
  createChain := allOrNothing_createChain
  addDependency _ _ := allOrNothing_perform fun _ => Update.allOrNothing_addDependency
  start _ := allOrNothing_performTransition _ fun _ => Update.allOrNothing_transition
  complete _ := allOrNothing_performTransition _ fun _ => Update.allOrNothing_transition
  fail _ _ := allOrNothing_performTransition _ fun _ => Update.allOrNothing_transition
  cancel _ := allOrNothing_performTransition _ fun _ => Update.allOrNothing_transition
  upsertType _ := allOrNothing_perform fun _ => Update.allOrNothing_upsertType
  createChain_error_iff _ _ _ := Memory.createChain_error_iff
  createChain_ok _ _ _ _ h := chainAdded_of_run h

end WorkQueue.Memory
