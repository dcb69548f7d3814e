import WorkQueue.Proofs.Memory.Moves
import Mathlib.Data.List.Forall2

/-!
# Calls of the storage

Every operation that may change the rows, as data: a call with its arguments, its clock reading and
the identifiers it draws, and the reply it gets. `Change` says all that a served call can do to the
rows; what every call keeps is shown by going through its cases.

## Main definitions

* `Memory.Call`, `Memory.Reply`, `Memory.State.serve`: one call, one step
* `Memory.Call.Admissible`: new identifiers are new, and ceilings fit their word
* `Memory.Change`: the effects of a call

## Main statements

* `Memory.serve_change`: a served call has one of these effects
-/

namespace WorkQueue.Memory

/-- A call of an operation that may change the rows. -/
inductive Call where
  | enqueue (spec : NewTask) (id : Uuid) (now : Timestamp)
  | createChain (specs : List NewTask) (ids : List Uuid) (now : Timestamp)
  | addDependency (task prerequisite : Uuid) (now : Timestamp)
  | upsertType (type : NewTaskType) (now : Timestamp)
  | claim (worker : String) (limit : Nat) (now : Timestamp)
  | start (id : Uuid) (now : Timestamp)
  | complete (id : Uuid) (now : Timestamp)
  | fail (id : Uuid) (message : String) (now : Timestamp)
  | cancel (id : Uuid) (now : Timestamp)

/-- What a call returns. -/
inductive Reply where
  | refused (failure : Failure)
  | task (t : Task)
  | tasks (ts : List Task)
  | edge (e : Dependency)
  | type (type : TaskType)

/-- The task and the action of a call that is a transition of one named task. -/
def Call.subject? : Call → Option (Uuid × Action)
  | .start id _ => some (id, .start)
  | .complete id _ => some (id, .complete)
  | .fail id _ _ => some (id, .fail)
  | .cancel id _ => some (id, .cancel)
  | _ => none

namespace State

/-- The reply to an update, and the rows that the update leaves. -/
def answer {α : Type} (s : State) (reply : α → Reply) (update : Update α) : Reply × State :=
  match update.on s with
  | (.error failure, next) => (.refused failure, next)
  | (.ok result, next) => (reply result, next)

/-- Serves a call: the reply and the rows after it. -/
def serve (policy : Backoff.Policy) (s : State) : Call → Reply × State
  | .enqueue spec id now => s.answer .task (.enqueue spec id now)
  | .createChain specs ids now => s.answer .tasks (.createChain specs ids now)
  | .addDependency task prerequisite now => s.answer .edge (.addDependency task prerequisite now)
  | .upsertType type now => s.answer .type (.upsertType type now)
  | .claim worker limit now => ((.tasks (s.claim worker limit now).1), (s.claim worker limit now).2)
  | .start id now => s.answer .task (.start id now)
  | .complete id now => s.answer .task (.complete id now)
  | .fail id message now => s.answer .task (.fail policy id message now)
  | .cancel id now => s.answer .task (.cancel id now)

end State

/-- A call can be made: the identifiers drawn for new tasks are new and distinct, and the ceiling of
a type is an integer of 32 bits. -/
def Call.Admissible (s : State) : Call → Prop
  | .enqueue _ id _ => s.find? id = none
  | .createChain specs ids _ =>
    ids.length = specs.length ∧ ids.Nodup ∧ ∀ id ∈ ids, s.find? id = none
  | .upsertType type _ =>
    IntRange.int32.lo ≤ type.maxAttempts ∧ type.maxAttempts ≤ IntRange.int32.hi
  | _ => True

instance (s : State) : (call : Call) → Decidable (call.Admissible s)
  | .enqueue _ id _ => decidable_of_iff (s.find? id).isNone Option.isNone_iff_eq_none
  | .createChain specs ids _ =>
    decidable_of_iff
      (ids.length = specs.length ∧ ids.Nodup ∧ ∀ id ∈ ids, (s.find? id).isNone)
      (by simp only [Option.isNone_iff_eq_none, Call.Admissible])
  | .upsertType _ _ => inferInstanceAs (Decidable (_ ∧ _))
  | .addDependency .. | .claim .. | .start .. | .complete .. | .fail .. | .cancel .. =>
    isTrue trivial

variable {policy : Backoff.Policy} {s s' : State} {call : Call} {reply : Reply}

/-- The rows of a chain's tasks. -/
def chainRows (specs : List NewTask) (ids : List Uuid) (now : Timestamp) : List Task :=
  specs.zipWith (fun spec id => Task.ofNew spec id now) ids

/-- The rows with those of a chain's tasks, and with its edges. -/
def State.addChain (s : State) (ts : List Task) (now : Timestamp) : State :=
  { s with tasks := s.tasks ++ ts, edges := s.edges ++ chainEdges now ts }

/-- What a call can do to the rows. -/
inductive Change (policy : Backoff.Policy) (s : State) : Call → Reply → State → Prop where
  /-- A refused call does nothing. -/
  | refused (call : Call) (failure : Failure) : Change policy s call (.refused failure) s
  | enqueued {spec checked : NewTask} (id : Uuid) (now : Timestamp)
      (accepted : s.prepare spec = .ok checked) :
      Change policy s (.enqueue spec id now) (.task (Task.ofNew checked id now))
        (s.insert [Task.ofNew checked id now])
  | chained {specs checked : List NewTask} (ids : List Uuid) (now : Timestamp)
      (accepted : List.Forall₂ (fun spec spec' => s.prepare spec = .ok spec') specs checked) :
      Change policy s (.createChain specs ids now) (.tasks (chainRows checked ids now))
        (s.addChain (chainRows checked ids now) now)
  /-- An edge that exists already is returned. -/
  | linkedBefore {task prerequisite : Uuid} {e : Dependency} (now : Timestamp)
      (stored : e ∈ s.edges) (task_eq : e.task = task)
      (prerequisite_eq : e.prerequisite = prerequisite) :
      Change policy s (.addDependency task prerequisite now) (.edge e) s
  | linked {t : Task} {task prerequisite : Uuid} (now : Timestamp) (found : s.find? task = some t)
      (pending : t.status = .pending) (target : (s.find? prerequisite).isSome)
      (new : ∀ e ∈ s.edges, e.task = task → e.prerequisite ≠ prerequisite)
      (acyclic : Dependency.wouldCycle s.edges task prerequisite = false) :
      Change policy s (.addDependency task prerequisite now) (.edge ⟨task, prerequisite, now⟩)
        { s with edges := s.edges ++ [⟨task, prerequisite, now⟩] }
  /-- A type that is registered again keeps its creation instant. -/
  | registered {type : NewTaskType} {createdAt : Timestamp} (now : Timestamp)
      (valid : type.validate = .ok ())
      (created : createdAt = ((s.findType? type.name).map (·.createdAt)).getD now) :
      Change policy s (.upsertType type now) (.type (type.registeredAt createdAt))
        (s.putType (type.registeredAt createdAt))
  | claimed (worker : String) (limit : Nat) (now : Timestamp) :
      Change policy s (.claim worker limit now) (.tasks (s.claim worker limit now).1)
        (s.claim worker limit now).2
  | moved {call : Call} {id : Uuid} {action : Action} {t t' : Task}
      (subject : call.subject? = some (id, action)) (found : s.find? id = some t)
      (moves : Moves policy s t action t') :
      Change policy s call (.task t') (s.put t')

/-! ### Each operation has one of these effects -/

/-- All requests of a list are accepted if each one is. -/
theorem mapM_eq_ok_iff {α β : Type} {f : α → Outcome β} {as : List α} {bs : List β} :
    as.mapM f = .ok bs ↔ List.Forall₂ (fun a b => f a = .ok b) as bs := by
  induction as generalizing bs with
  | nil => cases bs <;> simp [pure, Except.pure]
  | cons a as ih =>
    rw [List.mapM_cons, List.forall₂_cons_left_iff]
    simp only [bind, Except.bind, pure, Except.pure]
    cases f a with
    | error failure => simp
    | ok b =>
      cases rest : as.mapM f with
      | error failure => simp [← ih, rest]
      | ok bs' => simp [← ih, rest, eq_comm]

theorem Update.on_enqueue_of_accepted {spec checked : NewTask} (h : s.prepare spec = .ok checked)
    (id : Uuid) (now : Timestamp) : (Update.enqueue spec id now).on s =
      (.ok (Task.ofNew checked id now), s.insert [Task.ofNew checked id now]) := by
  rw [on_enqueue, h]

theorem Update.on_createChain_of_accepted {specs checked : List NewTask}
    (h : specs.mapM s.prepare = .ok checked) (ids : List Uuid) (now : Timestamp) :
    (Update.createChain specs ids now).on s =
      (.ok (chainRows checked ids now), s.addChain (chainRows checked ids now) now) := by
  rw [on_createChain, h]
  rfl

theorem enqueue_change {spec : NewTask} {id : Uuid} {now : Timestamp} {t : Task}
    (h : (Update.enqueue spec id now).on s = (.ok t, s')) :
    Change policy s (.enqueue spec id now) (.task t) s' := by
  rw [Update.on_enqueue] at h
  cases accepted : s.prepare spec with
  | error failure => simp [accepted] at h
  | ok checked =>
    simp only [accepted, Prod.mk.injEq, Except.ok.injEq] at h
    obtain ⟨rfl, rfl⟩ := h
    exact .enqueued id now accepted

theorem createChain_change {specs : List NewTask} {ids : List Uuid} {now : Timestamp}
    {ts : List Task} (h : (Update.createChain specs ids now).on s = (.ok ts, s')) :
    Change policy s (.createChain specs ids now) (.tasks ts) s' := by
  rw [Update.on_createChain] at h
  cases accepted : specs.mapM s.prepare with
  | error failure => simp [accepted] at h
  | ok checked =>
    simp only [accepted, Prod.mk.injEq, Except.ok.injEq] at h
    obtain ⟨rfl, rfl⟩ := h
    exact .chained ids now (mapM_eq_ok_iff.1 accepted)

theorem addDependency_change {task prerequisite : Uuid} {now : Timestamp} {e : Dependency}
    (h : (Update.addDependency task prerequisite now).on s = (.ok e, s')) :
    Change policy s (.addDependency task prerequisite now) (.edge e) s' := by
  rw [Update.on_addDependency] at h
  cases found : s.find? task with
  | none => simp [found] at h
  | some t =>
    simp only [found] at h
    split at h
    · cases h
    · rename_i target
      split at h
      · cases h
      · rename_i pending
        split at h
        · rename_i edge known
          cases h
          have ends := List.find?_some known
          simp only [Bool.and_eq_true, decide_eq_true_eq] at ends
          exact .linkedBefore now (List.mem_of_find?_eq_some known) ends.1 ends.2
        · rename_i unknown
          split at h
          · cases h
          · rename_i acyclic
            cases h
            have target : (s.find? prerequisite).isSome := by
              simpa [Option.isSome_iff_ne_none] using target
            refine .linked now found (by simpa using pending) target ?_ (by simpa using acyclic)
            intro e he htask hprerequisite
            simpa [htask, hprerequisite] using List.find?_eq_none.1 unknown e he

theorem upsertType_change {type : NewTaskType} {now : Timestamp} {stored : TaskType}
    (h : (Update.upsertType type now).on s = (.ok stored, s')) :
    Change policy s (.upsertType type now) (.type stored) s' := by
  rw [Update.on_upsertType] at h
  cases valid : type.validate with
  | error failure => simp [valid] at h
  | ok _ =>
    simp only [valid, Prod.mk.injEq, Except.ok.injEq] at h
    obtain ⟨rfl, rfl⟩ := h
    exact .registered now valid rfl

theorem State.serve_start {id : Uuid} {t : Task} {now : Timestamp} (found : s.find? id = some t)
    (claimed : t.status = .claimed) : s.serve policy (.start id now) =
      (.task (startedRow now t), s.put (startedRow now t)) := by
  have ok : (Update.start id now).on s = (.ok (startedRow now t), _) :=
    Update.on_start_eq_ok_iff.2 ⟨t, found, claimed, rfl, rfl⟩
  rw [serve, answer, ok]

theorem State.serve_complete {id : Uuid} {t : Task} {now : Timestamp}
    (found : s.find? id = some t) (processing : t.status = .processing) :
    s.serve policy (.complete id now) = (.task (completedRow now t), s.put (completedRow now t)) := by
  have ok : (Update.complete id now).on s = (.ok (completedRow now t), _) :=
    Update.on_complete_eq_ok_iff.2 ⟨t, found, processing, rfl, rfl⟩
  rw [serve, answer, ok]

theorem State.serve_fail {id : Uuid} {t : Task} {type : TaskType} {message : String}
    {now : Timestamp} (found : s.find? id = some t) (processing : t.status = .processing)
    (known : s.findType? t.taskType = some type) : s.serve policy (.fail id message now) =
      (.task (failedRow policy type message now t),
        s.put (failedRow policy type message now t)) := by
  have ok : (Update.fail policy id message now).on s =
      (.ok (failedRow policy type message now t), _) :=
    Update.on_fail_eq_ok_iff.2 ⟨t, type, found, processing, known, rfl, rfl⟩
  rw [serve, answer, ok]

/-- An update that leaves the rows as they were if it fails, and succeeds only with one of the
effects, has one of the effects. -/
theorem answer_change {α : Type} {toReply : α → Reply} {update : Update α}
    (law : update.AllOrNothing)
    (h : ∀ a next, update.on s = (.ok a, next) → Change policy s call (toReply a) next) :
    Change policy s call (s.answer toReply update).1 (s.answer toReply update).2 := by
  rw [State.answer]
  rcases law.ok_or_kept s with ⟨a, next, ok⟩ | ⟨failure, refused⟩
  · rw [ok]
    exact h a next ok
  · rw [refused]
    exact .refused call failure

/-- A served call has one of the effects. -/
theorem serve_change (policy : Backoff.Policy) (s : State) (call : Call) :
    Change policy s call (s.serve policy call).1 (s.serve policy call).2 := by
  cases call with
  | enqueue spec id now =>
    exact answer_change Update.allOrNothing_enqueue fun _ _ => enqueue_change
  | createChain specs ids now =>
    exact answer_change Update.allOrNothing_createChain fun _ _ => createChain_change
  | addDependency task prerequisite now =>
    exact answer_change Update.allOrNothing_addDependency fun _ _ => addDependency_change
  | upsertType type now =>
    exact answer_change Update.allOrNothing_upsertType fun _ _ => upsertType_change
  | claim worker limit now => exact .claimed worker limit now
  | start id now =>
    refine answer_change Update.allOrNothing_transition fun t' next h => ?_
    obtain ⟨t, found, claimed, rfl, rfl⟩ := Update.on_start_eq_ok_iff.1 h
    exact .moved rfl found (.start now claimed)
  | complete id now =>
    refine answer_change Update.allOrNothing_transition fun t' next h => ?_
    obtain ⟨t, found, processing, rfl, rfl⟩ := Update.on_complete_eq_ok_iff.1 h
    exact .moved rfl found (.complete now processing)
  | fail id message now =>
    refine answer_change Update.allOrNothing_transition fun t' next h => ?_
    obtain ⟨t, type, found, processing, known, rfl, rfl⟩ := Update.on_fail_eq_ok_iff.1 h
    exact .moved rfl found (.fail type message now processing known)
  | cancel id now =>
    refine answer_change Update.allOrNothing_transition fun t' next h => ?_
    obtain ⟨t, found, open_, rfl, rfl⟩ := Update.on_cancel_eq_ok_iff.1 h
    exact .moved rfl found (.cancel now open_)

end WorkQueue.Memory
