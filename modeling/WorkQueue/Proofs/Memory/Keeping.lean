import WorkQueue.Proofs.Memory.Consistency

/-!
# What every run keeps

Operations rewrite whole rows, but of a row only its bookkeeping: what was asked for stays as it was.
Nothing that is stored disappears, and an operation leaves the rows alone that it does not name. So
the stored task of an identifier is, in what the handler sees of it, the task that was requested.

## Main definitions

* `Task.Keeps`, `Memory.State.Kept`: what a row and a storage keep
* `Exchange.touched`: the tasks that an exchange rewrites
* `Memory.requestsOf`, `Task.MadeFrom`: the requests for a task, and the rows made from one

## Main statements

* `Memory.Step.kept`, `Memory.Run.kept`: a step and a run keep everything
* `Memory.Step.untouched`, `Memory.Run.untouched`: other rows stay as they are
* `Memory.Run.requested`: each stored task is made from the one request for it
-/

namespace WorkQueue

/-- A later row of the same task: only its bookkeeping may be different. -/
structure Task.Keeps (t t' : Task) : Prop where
  id : t'.id = t.id
  taskType : t'.taskType = t.taskType
  payload : t'.payload = t.payload
  resourceId : t'.resourceId = t.resourceId
  priority : t'.priority = t.priority
  scheduledFor : t'.scheduledFor = t.scheduledFor
  createdAt : t'.createdAt = t.createdAt
  attempts : t.attempts ≤ t'.attempts

theorem Task.Keeps.refl (t : Task) : t.Keeps t :=
  ⟨rfl, rfl, rfl, rfl, rfl, rfl, rfl, Int.le_refl _⟩

theorem Task.Keeps.trans {t₁ t₂ t₃ : Task} (first : t₁.Keeps t₂) (second : t₂.Keeps t₃) :
    t₁.Keeps t₃ where
  id := second.id.trans first.id
  taskType := second.taskType.trans first.taskType
  payload := second.payload.trans first.payload
  resourceId := second.resourceId.trans first.resourceId
  priority := second.priority.trans first.priority
  scheduledFor := second.scheduledFor.trans first.scheduledFor
  createdAt := second.createdAt.trans first.createdAt
  attempts := Int.le_trans first.attempts second.attempts

/-- The payload that is stored for a request. -/
def NewTask.storedPayload (spec : NewTask) : Json :=
  match spec.payload with
  | .null => .object []
  | payload => payload

/-- A row is one of the task that was requested. -/
structure Task.MadeFrom (t : Task) (spec : NewTask) : Prop where
  taskType : t.taskType = spec.taskType
  payload : t.payload = spec.storedPayload
  resourceId : t.resourceId = spec.resourceId
  priority : t.priority = spec.priority
  scheduledFor : t.scheduledFor = spec.scheduledFor.getD t.createdAt

theorem Task.Keeps.madeFrom {t t' : Task} {spec : NewTask} (keeps : t.Keeps t')
    (made : t.MadeFrom spec) : t'.MadeFrom spec where
  taskType := keeps.taskType.trans made.taskType
  payload := keeps.payload.trans made.payload
  resourceId := keeps.resourceId.trans made.resourceId
  priority := keeps.priority.trans made.priority
  scheduledFor := by rw [keeps.scheduledFor, keeps.createdAt, made.scheduledFor]

theorem NewTask.eq_of_validate {spec checked : NewTask} (h : spec.validate = .ok checked) :
    checked = { spec with payload := spec.storedPayload } := by
  unfold NewTask.validate at h
  split at h
  · cases h
  · split at h
    · cases h
    · split at h
      · rename_i payload
        cases h
        simp [storedPayload, payload]
      · rename_i members payload
        cases h
        have stored : spec.storedPayload = spec.payload := by simp [storedPayload, payload]
        rw [stored]
      · cases h

namespace Memory

variable {policy : Backoff.Policy} {start s s' s₁ s₂ s₃ : State} {history : List Exchange}
  {x : Exchange} {id : Uuid} {t t' : Task} {action : Action} {call : Call} {reply : Reply}

/-! ### Rows, edges and types -/

/-- Everything stored is still there. -/
structure State.Kept (s s' : State) : Prop where
  tasks : ∀ id t, s.find? id = some t → ∃ t', s'.find? id = some t' ∧ t.Keeps t'
  /-- Edges stay as they are, in their order; new ones come after them. -/
  edges : s.edges <+: s'.edges
  types : ∀ name type, s.findType? name = some type →
    ∃ type', s'.findType? name = some type' ∧ type'.createdAt = type.createdAt

theorem State.Kept.refl (s : State) : s.Kept s where
  tasks _ t found := ⟨t, found, .refl t⟩
  edges := List.prefix_refl _
  types _ type known := ⟨type, known, rfl⟩

theorem State.Kept.trans (first : s₁.Kept s₂) (second : s₂.Kept s₃) : s₁.Kept s₃ where
  tasks id t found := by
    obtain ⟨t', found', keeps⟩ := first.tasks id t found
    obtain ⟨t'', found'', keeps'⟩ := second.tasks id t' found'
    exact ⟨t'', found'', keeps.trans keeps'⟩
  edges := first.edges.trans second.edges
  types name type known := by
    obtain ⟨type', known', same⟩ := first.types name type known
    obtain ⟨type'', known'', same'⟩ := second.types name type' known'
    exact ⟨type'', known'', same'.trans same⟩

/-- A transition rewrites only the bookkeeping of a row. -/
theorem Moves.keeps (move : Moves policy s t action t') : t.Keeps t' := by
  cases move with
  | claim | complete | fail | cancel => exact ⟨rfl, rfl, rfl, rfl, rfl, rfl, rfl, Int.le_refl _⟩
  | start =>
    refine ⟨rfl, rfl, rfl, rfl, rfl, rfl, rfl, ?_⟩
    show t.attempts ≤ t.attempts + 1
    omega

theorem Change.edges_isPrefix (c : Change policy s call reply s') : s.edges <+: s'.edges := by
  cases c with
  | refused | enqueued | linkedBefore | registered | moved => exact List.prefix_refl _
  | linked | chained => exact List.prefix_append _ _
  | claimed =>
    rw [State.claim_snd, State.foldl_put_edges]

theorem Change.type_kept (c : Change policy s call reply s') {name : String} {type : TaskType}
    (known : s.findType? name = some type) :
    ∃ type', s'.findType? name = some type' ∧ type'.createdAt = type.createdAt := by
  cases c with
  | refused | enqueued | chained | linkedBefore | linked | moved => exact ⟨type, known, rfl⟩
  | claimed worker limit now =>
    have types_eq : (s.claim worker limit now).2.types = s.types := State.foldl_put_types _ _
    refine ⟨type, ?_, rfl⟩
    rw [State.findType?, types_eq]
    exact known
  | @registered new createdAt now valid created =>
    rw [State.findType?_putType]
    split
    · rename_i same
      have same : name = new.name := same
      subst same
      rw [known] at created
      exact ⟨_, rfl, created⟩
    · exact ⟨type, known, rfl⟩

/-- A step keeps everything that is stored. -/
theorem Step.kept (step : Step policy s x s') (hs : s.Keyed) : s.Kept s' where
  tasks id t found := by
    rcases step.row_of_found hs found with same | ⟨action, t', found', move⟩
    · exact ⟨t, same, .refl t⟩
    · exact ⟨t', found', move.keeps⟩
  edges := by
    obtain ⟨order, perm, admissible, c⟩ := step.change
    exact c.edges_isPrefix
  types name type known := by
    obtain ⟨order, perm, admissible, c⟩ := step.change
    exact c.type_kept known

theorem Run.kept (run : Run policy start history s) (hs : start.Keyed) : start.Kept s := by
  induction run with
  | nil => exact .refl _
  | snoc run step ih => exact ih.trans (step.kept (run.keyed hs))

/-! ### Rows that are not named -/

/-- The tasks that an exchange rewrites: the one that a successful transition names, or those that a
claim returns. -/
def Exchange.touched (x : Exchange) : List Uuid :=
  match x.call.subject?, x.reply with
  | some (id, _), .task _ => [id]
  | _, _ => x.batch.map (·.id)

theorem Exchange.moves_of_notMem_touched (h : id ∉ x.touched) : x.moves id = [] := by
  unfold Exchange.touched at h
  unfold Exchange.moves
  split
  · rename_i subject reply
    rw [subject, reply] at h
    have other : _ ≠ id := Ne.symm (List.ne_of_not_mem_cons h)
    rw [if_neg other]
  · rename_i none
    split at h
    · rename_i subject reply
      exact absurd reply (none _ _ _ subject)
    · have never : x.batch.filter (fun t => t.id = id) = [] := by simpa using h
      rw [never]
      rfl

/-- An operation leaves the rows of all other tasks as they are. -/
theorem Step.untouched (step : Step policy s x s') (hs : s.Keyed) (found : s.find? id = some t)
    (other : id ∉ x.touched) : s'.find? id = some t := by
  have row := step.row hs id
  rw [Exchange.moves_of_notMem_touched other] at row
  generalize s'.find? id = after at row ⊢
  cases row with
  | kept => exact found
  | created now unknown => simp [unknown] at found

theorem Run.untouched (run : Run policy start history s) (hs : start.Keyed)
    (found : start.find? id = some t) (others : ∀ x ∈ history, id ∉ x.touched) :
    s.find? id = some t := by
  induction run with
  | nil => exact found
  | @snoc history s s' x run step ih =>
    have before := ih fun y hy => others y (List.mem_append_left _ hy)
    exact step.untouched (run.keyed hs) before (others x (by simp))

/-! ### Requests -/

/-- The requests by which an exchange stored a task. -/
def Exchange.requests (x : Exchange) (id : Uuid) : List NewTask :=
  match x.call, x.reply with
  | .enqueue spec new _, .task _ => if new = id then [spec] else []
  | .createChain specs ids _, .tasks _ => ((specs.zip ids).filter fun p => p.2 = id).map (·.1)
  | _, _ => []

/-- The requests by which a history stored a task. -/
def requestsOf (history : List Exchange) (id : Uuid) : List NewTask :=
  history.flatMap fun x => x.requests id

@[simp] theorem requestsOf_append (h₁ h₂ : List Exchange) (id : Uuid) :
    requestsOf (h₁ ++ h₂) id = requestsOf h₁ id ++ requestsOf h₂ id :=
  List.flatMap_append

@[simp] theorem requestsOf_concat (history : List Exchange) (x : Exchange) (id : Uuid) :
    requestsOf (history ++ [x]) id = requestsOf history id ++ x.requests id := by
  simp [requestsOf]

/-- The row made for an accepted request. -/
theorem madeFrom_of_prepare {spec checked : NewTask} (h : s.prepare spec = .ok checked)
    (id : Uuid) (now : Timestamp) : (Task.ofNew checked id now).MadeFrom spec := by
  obtain rfl := NewTask.eq_of_validate (validate_of_prepare h)
  exact ⟨rfl, rfl, rfl, rfl, rfl⟩

theorem id_mem_of_mem_chainRows {specs : List NewTask} {ids : List Uuid} {now : Timestamp}
    (h : t ∈ chainRows specs ids now) : t.id ∈ ids := by
  induction specs generalizing ids with
  | nil => simp [chainRows] at h
  | cons spec specs ih =>
    cases ids with
    | nil => simp [chainRows] at h
    | cons new ids =>
      rcases List.mem_cons.1 h with rfl | later
      · exact List.mem_cons_self
      · exact List.mem_cons_of_mem _ (ih later)

/-- Each row of a chain is made from one of its requests. -/
theorem request_of_mem_chainRows {specs checked : List NewTask} {ids : List Uuid} {now : Timestamp}
    (accepted : List.Forall₂ (fun spec spec' => s.prepare spec = .ok spec') specs checked)
    (nodup : ids.Nodup) (h : t ∈ chainRows checked ids now) :
    ∃ spec, ((specs.zip ids).filter fun p => p.2 = t.id).map (·.1) = [spec] ∧
      t.MadeFrom spec := by
  induction accepted generalizing ids with
  | nil => simp [chainRows] at h
  | @cons spec spec' specs checked head rest ih =>
    cases ids with
    | nil => simp [chainRows] at h
    | cons new ids =>
      rw [List.nodup_cons] at nodup
      rcases List.mem_cons.1 h with rfl | later
      · -- no later request got the same identifier
        have others : (specs.zip ids).filter (fun p => p.2 = new) = [] := by
          rw [List.filter_eq_nil_iff]
          intro p hp same
          have inside : p.2 ∈ ids := (List.of_mem_zip hp).2
          exact nodup.1 (of_decide_eq_true same ▸ inside)
        refine ⟨spec, ?_, madeFrom_of_prepare head new now⟩
        have id_eq : (Task.ofNew spec' new now).id = new := rfl
        rw [id_eq, List.zip_cons_cons, List.filter_cons_of_pos (by simp), others]
        rfl
      · obtain ⟨found, one, made⟩ := ih nodup.2 later
        have ne : new ≠ t.id := by
          rintro rfl
          exact nodup.1 (id_mem_of_mem_chainRows later)
        refine ⟨found, ?_, made⟩
        rw [List.zip_cons_cons, List.filter_cons_of_neg (by simpa using ne), one]

/-- What a step does about the requests for one task. -/
inductive RequestChange (s : State) (id : Uuid) : List NewTask → Option Task → Prop where
  /-- The task is stored afterwards if it was before. -/
  | none {after : Option Task} (stored : after.isSome = (s.find? id).isSome) :
      RequestChange s id [] after
  | made {spec : NewTask} {t : Task} (unknown : s.find? id = none) (made : t.MadeFrom spec) :
      RequestChange s id [spec] (some t)

theorem isSome_find?_congr (h : s'.tasks.map (·.id) = s.tasks.map (·.id)) (id : Uuid) :
    (s'.find? id).isSome = (s.find? id).isSome := by
  rw [Bool.eq_iff_iff, Option.isSome_iff_ne_none, Option.isSome_iff_ne_none, ne_eq, ne_eq,
    State.find?_eq_none_iff, State.find?_eq_none_iff, h]

theorem requests_of_subject {subject : Uuid} (h : call.subject? = some (subject, action))
    (reply : Reply) (id : Uuid) : Exchange.requests ⟨call, reply⟩ id = [] := by
  cases call with
  | start | complete | fail | cancel => rfl
  | enqueue | createChain | addDependency | upsertType | claim => cases h

theorem Change.requests (c : Change policy s call reply s') (hs : s.Keyed)
    (admissible : call.Admissible s) (id : Uuid) :
    RequestChange s id (Exchange.requests ⟨call, reply⟩ id) (s'.find? id) := by
  have hs' := c.keyed hs admissible
  cases c with
  | refused call failure => cases call <;> exact .none rfl
  | linkedBefore | linked | registered => exact .none rfl
  | claimed => exact .none (isSome_find?_congr (State.ids_foldl_put _ _) id)
  | moved subject =>
    rw [requests_of_subject subject]
    exact .none (isSome_find?_congr State.ids_put id)
  | @enqueued spec checked new now accepted =>
    by_cases h : new = id
    · subst h
      have found := State.find?_insert_of_mem hs' (List.mem_singleton_self _)
      have id_eq : (Task.ofNew checked new now).id = new := rfl
      rw [id_eq] at found
      rw [found]
      simp only [Exchange.requests, if_true]
      exact .made admissible (madeFrom_of_prepare accepted new now)
    · have other : id ∉ [Task.ofNew checked new now].map (·.id) := by
        simpa [Task.ofNew] using Ne.symm h
      rw [State.find?_insert_of_notMem other]
      simp only [Exchange.requests, if_neg h]
      exact .none rfl
  | @chained specs checked ids now accepted =>
    obtain ⟨length_eq, nodup, fresh⟩ := admissible
    rw [accepted.length_eq] at length_eq
    have ids_eq := ids_chainRows now length_eq
    by_cases h : id ∈ ids
    · obtain ⟨t, ht, rfl⟩ := List.mem_map.1 (ids_eq.symm ▸ h)
      obtain ⟨spec, one, made⟩ := request_of_mem_chainRows accepted nodup ht
      have found : (s.addChain (chainRows checked ids now) now).find? t.id = some t :=
        State.find?_insert_of_mem hs' ht
      rw [found]
      simp only [Exchange.requests, one]
      exact .made (fresh t.id h) made
    · have never : (specs.zip ids).filter (fun p => p.2 = id) = [] := by
        rw [List.filter_eq_nil_iff]
        intro p hp same
        exact h (of_decide_eq_true same ▸ (List.of_mem_zip hp).2)
      have kept : (s.addChain (chainRows checked ids now) now).find? id = s.find? id :=
        State.find?_insert_of_notMem (ids_eq.symm ▸ h)
      rw [kept]
      simp only [Exchange.requests, never]
      exact .none rfl

theorem Step.requests (step : Step policy s x s') (hs : s.Keyed) (id : Uuid) :
    RequestChange s id (x.requests id) (s'.find? id) := by
  obtain ⟨order, perm, admissible, c⟩ := step.change
  have change := c.requests (hs.visiting perm) ((admissible_visiting hs perm _).2 admissible) id
  generalize Exchange.requests _ id = specs at change ⊢
  generalize s'.find? id = after at change ⊢
  cases change with
  | none stored =>
    rw [State.find?_visiting hs perm] at stored
    exact .none stored
  | made unknown made =>
    rw [State.find?_visiting hs perm] at unknown
    exact .made unknown made

/-- In every run, a stored task was requested once, and its row is made from that request; nothing
else was requested. -/
theorem Run.requested (run : Run policy {} history s) (id : Uuid) :
    (s.find? id = none ∧ requestsOf history id = []) ∨
      ∃ t spec, s.find? id = some t ∧ requestsOf history id = [spec] ∧ t.MadeFrom spec := by
  induction run with
  | nil => exact .inl ⟨rfl, rfl⟩
  | @snoc history s s' x run step ih =>
    have hs := run.keyed keyed_empty
    have change := step.requests hs id
    rw [requestsOf_concat]
    generalize x.requests id = specs at change ⊢
    rcases ih with ⟨unknown, none⟩ | ⟨t, spec, found, one, made⟩
    · rw [none, List.nil_append]
      generalize s'.find? id = after at change ⊢
      cases change with
      | none stored => exact .inl ⟨by simpa [unknown] using stored, rfl⟩
      | made _ made => exact .inr ⟨_, _, rfl, rfl, made⟩
    · obtain ⟨t', found', keeps⟩ := (step.kept hs).tasks id t found
      rw [found'] at change ⊢
      cases change with
      | none => exact .inr ⟨t', spec, rfl, by rw [one, List.append_nil], keeps.madeFrom made⟩
      | made unknown => simp [unknown] at found

end Memory

end WorkQueue
