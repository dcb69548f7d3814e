import WorkQueue.Memory.Update

/-!
# Refused updates

An update that fails keeps what it has written. So what a refused operation leaves depends on the
order of its steps: it leaves the rows as they were if everything that may fail comes before the
first write. Every operation is shown to be made in this way, and what comes of it is computed from
its steps.

## Main definitions

* `Memory.Update.ReadsOnly`, `Memory.Update.Succeeds`: updates that write nothing, and updates that
  cannot fail
* `Memory.Update.AllOrNothing`: an update that leaves the rows as they were if it fails

## Main statements

* `Memory.Update.AllOrNothing.check`: a check may come before such an update
* `Memory.Update.allOrNothing_enqueue` and its companions: the operations are such updates
* `Memory.Update.on_enqueue` and its companions: what comes of them
-/

namespace WorkQueue.Memory.Update

variable {α β : Type} {s : State} {update : Update α} {next : α → Update β}

/-! ### Single steps -/

@[simp] theorem on_pure (a : α) : (pure a : Update α).on s = (.ok a, s) := rfl

@[simp] theorem on_throw (failure : Failure) :
    (throw failure : Update α).on s = (.error failure, s) := rfl

/-- The second step sees the rows that the first one leaves, unless the first one fails. -/
theorem on_bind (update : Update α) (next : α → Update β) (s : State) :
    (update >>= next).on s =
      match update.on s with
      | (.ok a, s') => (next a).on s'
      | (.error failure, s') => (.error failure, s') := by
  show ((update.run >>= ExceptT.bindCont next).run s).run = _
  rw [StateT.run_bind]
  show ((ExceptT.bindCont next (update.on s).1).run (update.on s).2).run = _
  cases update.on s with
  | mk outcome s' => cases outcome <;> rfl

@[simp] theorem on_get_bind (next : State → Update β) (s : State) :
    (get >>= next).on s = (next s).on s := rfl

@[simp] theorem on_lift_bind (outcome : Outcome α) (next : α → Update β) (s : State) :
    ((liftM outcome : Update α) >>= next).on s =
      match outcome with
      | .ok a => (next a).on s
      | .error failure => (.error failure, s) := by
  cases outcome <;> rfl

@[simp] theorem on_modify_bind (f : State → State) (next : Unit → Update β) (s : State) :
    (modify f >>= next).on s = (next ()).on (f s) := rfl

/-- What has been written before a failure stays written. -/
example (f : State → State) (failure : Failure) (s : State) :
    (do modify f; throw failure : Update α).on s = (.error failure, f s) := rfl

/-! ### Checks and writes -/

/-- The update leaves the rows as they were, whether it fails or not. -/
def ReadsOnly (update : Update α) : Prop := ∀ s, (update.on s).2 = s

/-- The update cannot fail. -/
def Succeeds (update : Update α) : Prop := ∀ s, ∃ a s', update.on s = (.ok a, s')

/-- The update leaves the rows as they were if it fails. -/
def AllOrNothing (update : Update α) : Prop :=
  ∀ s failure s', update.on s = (.error failure, s') → s' = s

theorem readsOnly_get : ReadsOnly (get : Update State) := fun _ => rfl

theorem readsOnly_lift (outcome : Outcome α) : ReadsOnly (liftM outcome : Update α) := fun _ => rfl

theorem succeeds_pure (a : α) : Succeeds (pure a) := fun s => ⟨a, s, rfl⟩

theorem succeeds_modify (f : State → State) : Succeeds (modify f : Update Unit) :=
  fun s => ⟨(), f s, rfl⟩

theorem Succeeds.bind (first : Succeeds update) (second : ∀ a, Succeeds (next a)) :
    Succeeds (update >>= next) := by
  intro s
  obtain ⟨a, s₁, ok⟩ := first s
  obtain ⟨b, s₂, ok'⟩ := second a s₁
  exact ⟨b, s₂, by rw [on_bind, ok, ← ok']⟩

/-- Writing a result of which nothing can be refused any more. -/
theorem Succeeds.write (f : State → State) (a : α) :
    Succeeds (do modify f; return a : Update α) :=
  (succeeds_modify f).bind fun _ => succeeds_pure a

namespace AllOrNothing

/-- Such an update succeeds, or leaves the rows as they were. -/
theorem ok_or_kept (law : AllOrNothing update) (s : State) :
    (∃ a s', update.on s = (.ok a, s')) ∨ ∃ failure, update.on s = (.error failure, s) := by
  cases outcome : update.on s with
  | mk result s' =>
    cases result with
    | error failure =>
      obtain rfl := law s failure s' outcome
      exact .inr ⟨failure, rfl⟩
    | ok a => exact .inl ⟨a, s', rfl⟩

theorem throw (failure : Failure) : AllOrNothing (throw failure : Update α) := by
  intro s failure' s' h
  exact (Prod.mk.inj h).2.symm

theorem of_succeeds (succeeds : Succeeds update) : AllOrNothing update := by
  intro s failure s' h
  obtain ⟨a, s₁, ok⟩ := succeeds s
  rw [ok] at h
  cases h

/-- A step that writes nothing may fail, and so may what follows it. -/
theorem check (first : ReadsOnly update) (second : ∀ a, AllOrNothing (next a)) :
    AllOrNothing (update >>= next) := by
  intro s failure s' h
  have kept := first s
  rw [on_bind] at h
  cases outcome : update.on s with
  | mk result s₁ =>
    rw [outcome] at h kept
    obtain rfl : s₁ = s := kept
    cases result with
    | error failure' => exact (Prod.mk.inj h).2.symm
    | ok a => exact second a _ failure s' h

end AllOrNothing

/-! ### The operations -/

variable {spec : NewTask} {specs : List NewTask} {id task prerequisite : Uuid} {ids : List Uuid}
  {action : Action} {fill : State → Task → Outcome Task} {type : NewTaskType} {now : Timestamp}

theorem allOrNothing_enqueue : AllOrNothing (enqueue spec id now) := by
  refine .check readsOnly_get fun s => ?_
  refine .check (readsOnly_lift _) fun checked => ?_
  exact .of_succeeds (.write _ _)

/-- All requests are checked before the first edge is written. -/
theorem allOrNothing_createChain : AllOrNothing (createChain specs ids now) := by
  refine .check readsOnly_get fun s => ?_
  refine .check (readsOnly_lift _) fun checked => ?_
  exact .of_succeeds ((succeeds_modify _).bind fun _ => .write _ _)

/-- The row is written after its status, its target and its fields have been settled. -/
theorem allOrNothing_transition : AllOrNothing (transition id action now fill) := by
  refine .check readsOnly_get fun s => ?_
  cases s.find? id with
  | none => exact .throw _
  | some t =>
    dsimp only
    split
    · refine .check (readsOnly_lift _) fun target => ?_
      refine .check readsOnly_get fun s => ?_
      refine .check (readsOnly_lift _) fun updated => ?_
      exact .of_succeeds (.write _ _)
    · exact .throw _

theorem allOrNothing_addDependency : AllOrNothing (addDependency task prerequisite now) := by
  refine .check readsOnly_get fun s => ?_
  cases s.find? task with
  | none => exact .throw _
  | some t =>
    dsimp only
    split
    · exact .throw _
    · split
      · exact .throw _
      · split
        · exact .of_succeeds (succeeds_pure _)
        · split
          · exact .throw _
          · exact .of_succeeds (.write _ _)

theorem allOrNothing_upsertType : AllOrNothing (upsertType type now) := by
  refine .check (readsOnly_lift _) fun valid => ?_
  refine .check readsOnly_get fun s => ?_
  exact .of_succeeds (.write _ _)

theorem on_enqueue (spec : NewTask) (id : Uuid) (now : Timestamp) (s : State) :
    (enqueue spec id now).on s =
      match s.prepare spec with
      | .error failure => (.error failure, s)
      | .ok checked => (.ok (Task.ofNew checked id now), s.insert [Task.ofNew checked id now]) := by
  rw [enqueue, on_get_bind, on_lift_bind]
  cases s.prepare spec <;> rfl

theorem on_createChain (specs : List NewTask) (ids : List Uuid) (now : Timestamp) (s : State) :
    (createChain specs ids now).on s =
      match specs.mapM s.prepare with
      | .error failure => (.error failure, s)
      | .ok checked =>
        let ts := checked.zipWith (fun spec id => Task.ofNew spec id now) ids
        (.ok ts, (s.link (State.chainEdges now ts)).insert ts) := by
  rw [createChain, on_get_bind, on_lift_bind]
  cases specs.mapM s.prepare <;> rfl

theorem on_transition (id : Uuid) (action : Action) (now : Timestamp)
    (fill : State → Task → Outcome Task) (s : State) : (transition id action now fill).on s =
      match s.find? id with
      | none => (.error (.taskNotFound id), s)
      | some t =>
        if t.status ∈ action.sources then
          match t.target? action with
          | .error failure => (.error failure, s)
          | .ok target =>
            match fill s { t with status := target, updatedAt := now } with
            | .error failure => (.error failure, s)
            | .ok updated => (.ok updated, s.put updated)
        else (.error (.ofRejected id (some t) action), s) := by
  rw [transition, on_get_bind]
  cases s.find? id with
  | none => rfl
  | some t =>
    by_cases source : t.status ∈ action.sources
    · simp only [if_pos source, on_lift_bind, on_get_bind]
      cases t.target? action with
      | error failure => rfl
      | ok target =>
        dsimp only
        cases fill s { t with status := target, updatedAt := now } <;> rfl
    · simp only [if_neg source, on_throw]

theorem on_addDependency (task prerequisite : Uuid) (now : Timestamp) (s : State) :
    (addDependency task prerequisite now).on s =
      match s.find? task with
      | none => (.error (.taskNotFound task), s)
      | some t =>
        if (s.find? prerequisite).isNone then (.error (.taskNotFound prerequisite), s)
        else if t.status ≠ .pending then
          (.error (.invalidDependency (lateDependencyText task t.status)), s)
        else match s.edges.find? fun e => e.task = task && e.prerequisite = prerequisite with
          | some edge => (.ok edge, s)
          | none =>
            if Dependency.wouldCycle s.edges task prerequisite then
              (.error (.cycleDetected task prerequisite), s)
            else (.ok ⟨task, prerequisite, now⟩, s.link [⟨task, prerequisite, now⟩]) := by
  rw [addDependency, on_get_bind]
  cases s.find? task with
  | none => rfl
  | some t =>
    simp only [apply_ite (on s), on_throw]
    cases s.edges.find? fun e => e.task = task && e.prerequisite = prerequisite with
    | some edge => rfl
    | none => simp only [apply_ite (on s), on_throw, on_modify_bind, on_pure]

theorem on_upsertType (type : NewTaskType) (now : Timestamp) (s : State) :
    (upsertType type now).on s =
      match type.validate with
      | .error failure => (.error failure, s)
      | .ok _ =>
        let stored := type.registeredAt (((s.findType? type.name).map (·.createdAt)).getD now)
        (.ok stored, s.putType stored) := by
  rw [upsertType, on_lift_bind]
  cases type.validate <;> rfl

end WorkQueue.Memory.Update
