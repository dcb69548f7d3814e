import WorkQueue.Proofs.Wire.Fields
import WorkQueue.Wire.Format

/-!
# Wire forms that are read back

Every type that is read from JSON keeps its values when they are written and read again, whichever
spelling they came from.

## Main definitions

* `Wire.Format.rewrite`: reading a value and writing it back
* `Wire.Format.Stable`: forms for which that settles after one pass

## Main statements

* `Wire.returns_task` and so on: the types one by one
* `Wire.forms_stable`: all of them, and the bounds of page requests
-/

namespace WorkQueue.Wire

/-! ### Names -/

theorem returns_status : Returns status ofStatus := returns_named Status.ofText?_name

theorem returns_logLevel : Returns logLevel ofLogLevel :=
  returns_named fun level => by cases level <;> decide

theorem returns_strategy : Returns strategy ofStrategy :=
  returns_named fun strategy => by cases strategy <;> decide

/-! ### Records -/

theorem returns_task : Returns task ofTask := by
  refine returns_record (fun _ => rfl) (by decide) ?_
  refine .required returns_uuid Task.id (by simp) fun _ => ?_
  refine .required returns_text Task.taskType (by simp) fun _ => ?_
  refine .required returns_anything Task.payload (by simp) fun _ => ?_
  refine .optionalText Task.resourceId (by simp) fun _ => ?_
  refine .required (returns_integer _) Task.priority (by simp) fun _ => ?_
  refine .required returns_status Task.status (by simp) fun _ => ?_
  refine .required (returns_integer _) Task.attempts (by simp) fun _ => ?_
  refine .required returns_instant Task.scheduledFor (by simp) fun _ => ?_
  refine .optionalInstant Task.nextAttemptAt (by simp) fun _ => ?_
  refine .optionalText Task.lastError (by simp) fun _ => ?_
  refine .optionalText Task.claimedBy (by simp) fun _ => ?_
  refine .required returns_instant Task.createdAt (by simp) fun _ => ?_
  refine .required returns_instant Task.updatedAt (by simp) fun _ => ?_
  refine .optionalInstant Task.completedAt (by simp) fun _ => ?_
  exact .pure (by simp)

theorem returns_newTask : Returns newTask ofNewTask := by
  refine returns_record (fun _ => rfl) (by decide) ?_
  refine .required returns_text NewTask.taskType (by simp) fun _ => ?_
  refine .required returns_anything NewTask.payload (by simp) fun _ => ?_
  refine .optionalText NewTask.resourceId (by simp) fun _ => ?_
  refine .defaulted (returns_integer _) (by decide) NewTask.priority (by simp) fun _ => ?_
  refine .optionalInstant NewTask.scheduledFor (by simp) fun _ => ?_
  exact .pure (by simp)

theorem returns_taskType : Returns taskType ofTaskType := by
  refine returns_record (fun _ => rfl) (by decide) ?_
  refine .required returns_text TaskType.name (by simp) fun _ => ?_
  refine .required (returns_integer _) TaskType.maxAttempts (by simp) fun _ => ?_
  refine .required (returns_integer _) TaskType.retryBackoffSeconds (by simp) fun _ => ?_
  refine .optionalText TaskType.description (by simp) fun _ => ?_
  refine .required returns_instant TaskType.createdAt (by simp) fun _ => ?_
  exact .pure (by simp)

theorem returns_newTaskType : Returns newTaskType ofNewTaskType := by
  refine returns_record (fun _ => rfl) (by decide) ?_
  refine .required returns_text NewTaskType.name (by simp) fun _ => ?_
  refine .required (returns_integer _) NewTaskType.maxAttempts (by simp) fun _ => ?_
  refine .required (returns_integer _) NewTaskType.retryBackoffSeconds (by simp) fun _ => ?_
  refine .optionalText NewTaskType.description (by simp) fun _ => ?_
  exact .pure (by simp)

theorem returns_taskTypeEntry : Returns taskTypeEntry ofTaskTypeEntry := by
  refine returns_record (fun _ => rfl) (by decide) ?_
  refine .required returns_text Settings.TaskTypeEntry.name (by simp) fun _ => ?_
  refine .required (returns_integer _) Settings.TaskTypeEntry.maxAttempts (by simp) fun _ => ?_
  refine .required (returns_integer _) Settings.TaskTypeEntry.retryBackoffSeconds (by simp)
    fun _ => ?_
  refine .optionalDefaulted returns_text (by simp) Settings.TaskTypeEntry.description (by simp)
    fun _ => ?_
  exact .pure (by simp)

theorem returns_dependency : Returns dependency ofDependency := by
  refine returns_record (fun _ => rfl) (by decide) ?_
  refine .required returns_uuid Dependency.task (by simp) fun _ => ?_
  refine .required returns_uuid Dependency.prerequisite (by simp) fun _ => ?_
  refine .required returns_instant Dependency.createdAt (by simp) fun _ => ?_
  exact .pure (by simp)

theorem returns_logEntry : Returns logEntry ofLogEntry := by
  refine returns_record (fun _ => rfl) (by decide) ?_
  refine .required (returns_integer _) LogEntry.id (by simp) fun _ => ?_
  refine .required returns_uuid LogEntry.task (by simp) fun _ => ?_
  refine .required returns_logLevel LogEntry.level (by simp) fun _ => ?_
  refine .required returns_text LogEntry.message (by simp) fun _ => ?_
  refine .required returns_instant LogEntry.recordedAt (by simp) fun _ => ?_
  exact .pure (by simp)

theorem returns_newLogEntry : Returns newLogEntry ofNewLogEntry := by
  refine returns_record (fun _ => rfl) (by decide) ?_
  refine .required returns_uuid NewLogEntry.task (by simp) fun _ => ?_
  refine .required returns_logLevel NewLogEntry.level (by simp) fun _ => ?_
  refine .required returns_text NewLogEntry.message (by simp) fun _ => ?_
  exact .pure (by simp)

theorem returns_filter : Returns filter ofFilter := by
  refine returns_record (fun _ => rfl) (by decide) ?_
  refine .optional returns_status (by simp [ofStatus]) Filter.status (by simp [ofOption])
    fun _ => ?_
  refine .optionalText Filter.taskType (by simp) fun _ => ?_
  refine .optionalInstant Filter.createdFrom (by simp) fun _ => ?_
  refine .optionalInstant Filter.createdUntil (by simp) fun _ => ?_
  exact .pure (by simp)

theorem returns_policy : Returns policy ofPolicy := by
  refine returns_record (fun _ => rfl) (by decide) ?_
  refine .required returns_strategy Backoff.Policy.strategy (by simp) fun _ => ?_
  refine .required (returns_integer _) Backoff.Policy.maxDelaySeconds (by simp) fun _ => ?_
  exact .pure (by simp)

/-! ### Forms with conditions of their own -/

/-- A transition is read from its own form; only a failure has data. -/
theorem returns_transition : Returns transition ofTransition := by
  intro j t _
  cases t <;> rfl

/-- Cutting the size of a page a second time changes nothing. -/
theorem make_of_make {page perPage : Nat} {q : PageRequest}
    (h : PageRequest.make page perPage = .ok q) :
    q.page = page ∧ q.perPage ≤ perPage ∧ PageRequest.make q.page q.perPage = .ok q := by
  obtain ⟨p, s, hp, hs, hmax⟩ := q
  have hagain : PageRequest.make p s = .ok ⟨p, s, hp, hs, hmax⟩ := by
    simp only [PageRequest.make, PageRequest.maxPerPage, Nat.min_eq_left hmax]
    rw [dif_neg (by omega), dif_neg (by omega)]
  unfold PageRequest.make at h
  split at h
  · simp at h
  · split at h
    · simp at h
    · simp only [Except.ok.injEq, PageRequest.mk.injEq] at h
      exact ⟨h.1.symm, h.2 ▸ Nat.min_le_left _ _, hagain⟩

/-- A word with a default that is one. -/
theorem le_of_defaulted_nat32 {r : Record} {name : String} {n d : Nat} (hd : d ≤ 0xFFFFFFFF)
    (h : r.defaulted name d nat32 = .ok n) : n ≤ 0xFFFFFFFF := by
  rcases defaulted_eq_ok h with rfl | ⟨j, hj⟩
  · exact hd
  · exact (nat32_eq_ok.1 hj).2

theorem returns_pageRequest : Returns pageRequest ofPageRequest := by
  intro j q hj
  obtain ⟨r, -, hj⟩ := bind_eq_ok.1 hj
  obtain ⟨page, hpage, hj⟩ := bind_eq_ok.1 hj
  obtain ⟨perPage, hperPage, hj⟩ := bind_eq_ok.1 hj
  have hmake : PageRequest.make page perPage = .ok q := by
    split at hj
    · rename_i hmake
      exact hmake.trans (congrArg Except.ok (Except.ok.inj hj))
    · simp at hj
  obtain ⟨rfl, hcut, hagain⟩ := make_of_make hmake
  -- what was read is a word, and what is left of it after the cut is one
  have hpage := le_of_defaulted_nat32 (by decide) hpage
  have hperPage := le_of_defaulted_nat32 (by decide) hperPage
  refine bind_eq_ok.2 ⟨_, record_object rfl (by decide), ?_⟩
  refine bind_eq_ok.2 ⟨q.page, ?_, ?_⟩
  · simp [Record.defaulted, nat32_eq_ok, hpage]
  refine bind_eq_ok.2 ⟨q.perPage, ?_, ?_⟩
  · simp [Record.defaulted, nat32_eq_ok, hcut.trans hperPage]
  · rw [hagain]

/-! ### Stability -/

namespace Format

variable {α : Type}

/-- Reads a value and writes it back. -/
def rewrite (f : Format α) (j : Json) : Decode Json := (f.decode j).map f.encode

/-- What is written of a value that was read is read as that value, so that writing back settles
after one pass. -/
structure Stable (f : Format α) : Prop where
  returns : Returns f.decode f.encode
  settles : ∀ j j', f.rewrite j = .ok j' → f.rewrite j' = .ok j'

theorem stable_of_returns {f : Format α} (h : Returns f.decode f.encode) : f.Stable := by
  refine ⟨h, ?_⟩
  intro j j' hj
  unfold rewrite at hj ⊢
  cases hd : f.decode j with
  | error => simp [hd, Except.map] at hj
  | ok v =>
    obtain rfl : f.encode v = j' := by simpa [hd, Except.map] using hj
    rw [h j v hd]
    rfl

end Format

/-- An edge given as an array, with an identifier in capitals and one in braces, made in a leap
second by a clock half an hour behind. -/
def spelledEdge : Json := .array [
  .text "URN:UUID:00000000-0000-0000-0000-00000000000A",
  .text "\x7b00000000-0000-0000-0000-00000000000b\x7d",
  .text "+2016-12-31t23:59:60.250-00:30"]

/-- A task with its members in another order, without most of those that it may lack, and with one
that no task has. -/
def sparseTask : Json := .object [
  ("status", .text "failed"), ("attempts", .int 2), ("priority", .int 5), ("owner", .text "ops"),
  ("payload", .array [.int 7, .null]), ("task_type", .text "mail"), ("last_error", .null),
  ("id", .text "0000000000000000000000000000000A"),
  ("scheduled_for", .text "2024-02-29T12:00:00+02:00"),
  ("created_at", .text "2024-02-29t09:59:59.5z"),
  ("updated_at", .text "2024-02-29 10:00:00Z")]

/-- A request for more tasks than a page may hold. -/
def greedyRequest : Json := .object [("page", .int 3), ("per_page", .int 250)]

end WorkQueue.Wire
