import WorkQueue.Proofs.Memory.Exclusion

/-!
# Attempts and their ceiling

Each start counts one attempt and looks at no ceiling. The ceiling is looked at by the claim before
it, under the type as it is known then, so attempts stay within the largest ceiling that the type
has been registered with, whenever types are registered again.

## Main definitions

* `Memory.registrations`: the types registered under a name in a history
* `Memory.Ceiling`: the registrations that bound the attempts of a row
* `Memory.AttemptsBounded`: how attempts are counted and bounded after a history

## Main statements

* `Memory.Run.findType?_eq`: the type known under a name is the last one registered
* `Memory.Run.ceiling`, `Memory.attempts_bounded`: attempts stay within their ceiling
-/

namespace WorkQueue.Memory

/-- The type that an exchange registered under a name, if it did. -/
def Exchange.registered (x : Exchange) (name : String) : List TaskType :=
  match x.call, x.reply with
  | .upsertType .., .type type => if type.name = name then [type] else []
  | _, _ => []

/-- The types that a history registered under a name, in order. -/
def registrations (history : List Exchange) (name : String) : List TaskType :=
  history.flatMap fun x => x.registered name

@[simp] theorem registrations_nil (name : String) : registrations [] name = [] := rfl

@[simp] theorem registrations_append (h₁ h₂ : List Exchange) (name : String) :
    registrations (h₁ ++ h₂) name = registrations h₁ name ++ registrations h₂ name :=
  List.flatMap_append

theorem registrations_cons (x : Exchange) (history : List Exchange) (name : String) :
    registrations (x :: history) name = x.registered name ++ registrations history name :=
  List.flatMap_cons

@[simp] theorem registrations_concat (history : List Exchange) (x : Exchange) (name : String) :
    registrations (history ++ [x]) name = registrations history name ++ x.registered name := by
  simp [registrations]

variable {policy : Backoff.Policy} {s s' : State} {history : List Exchange} {x : Exchange}
  {id : Uuid} {t t' : Task} {name : String} {type : TaskType} {moves : List (Action × Task)}

/-! ### Registered types -/

/-- A type allows at least one attempt, and no more than its word can count. -/
def CeilingFits (type : TaskType) : Prop :=
  1 ≤ type.maxAttempts ∧ type.maxAttempts ≤ IntRange.int32.hi

/-- What a call does to the type known under a name. -/
inductive TypeChange (s : State) (name : String) : List TaskType → Option TaskType → Prop where
  | kept : TypeChange s name [] (s.findType? name)
  | registered (type : TaskType) (fits : CeilingFits type) : TypeChange s name [type] (some type)

theorem maxAttempts_of_validate {type : NewTaskType} (h : type.validate = .ok ()) :
    1 ≤ type.maxAttempts := by
  unfold NewTaskType.validate at h
  split at h
  · cases h
  · split at h
    · cases h
    · omega

theorem Change.typeChange {call : Call} {reply : Reply} (c : Change policy s call reply s')
    (admissible : call.Admissible s) (name : String) :
    TypeChange s name (Exchange.registered ⟨call, reply⟩ name) (s'.findType? name) := by
  cases c with
  | refused call failure => cases call <;> exact .kept
  | enqueued | chained | linkedBefore | linked => exact .kept
  | claimed worker limit now =>
    have types_eq : (s.claim worker limit now).2.types = s.types := State.foldl_put_types _ _
    rw [State.findType?, types_eq]
    exact .kept
  | @moved call id action t t' subject found move => cases call <;> exact .kept
  | @registered type createdAt now valid created =>
    rw [State.findType?_putType]
    by_cases h : name = type.name
    · subst h
      simp only [Exchange.registered, NewTaskType.registeredAt, if_true]
      exact .registered _ ⟨maxAttempts_of_validate valid, admissible.2⟩
    · simp only [Exchange.registered, NewTaskType.registeredAt, Ne.symm h, h, if_false]
      exact .kept

theorem Step.typeChange (step : Step policy s x s') (hs : s.Keyed) (name : String) :
    TypeChange s name (x.registered name) (s'.findType? name) := by
  obtain ⟨order, perm, admissible, c⟩ := step.change
  have change := c.typeChange ((admissible_visiting hs perm _).2 admissible) name
  generalize Exchange.registered _ name = types at change ⊢
  generalize s'.findType? name = after at change ⊢
  cases change with
  | kept => exact .kept
  | registered type fits => exact .registered type fits

/-- The type known under a name is the last one registered. -/
theorem Run.findType?_eq (run : Run policy {} history s) :
    s.findType? name = (registrations history name).getLast? := by
  induction run with
  | nil => rfl
  | snoc run step ih =>
    rw [registrations_concat]
    have change := step.typeChange (run.keyed keyed_empty) name
    generalize Exchange.registered _ name = types at change ⊢
    generalize State.findType? _ name = after at change ⊢
    cases change with
    | kept => rw [List.append_nil, ih]
    | registered type fits => rw [List.getLast?_concat]

theorem Run.ceilingFits (run : Run policy {} history s) (h : type ∈ registrations history name) :
    CeilingFits type := by
  induction run with
  | nil => simp at h
  | snoc run step ih =>
    rw [registrations_concat] at h
    have change := step.typeChange (run.keyed keyed_empty) name
    generalize Exchange.registered _ name = types at change h
    generalize State.findType? _ name = after at change
    rcases List.mem_append.1 h with h | h
    · exact ih h
    · cases change with
      | kept => simp at h
      | registered type fits => rwa [List.mem_singleton.1 h]

/-- Known types have been registered. -/
theorem Run.mem_registrations (run : Run policy {} history s) (h : s.findType? name = some type) :
    type ∈ registrations history name := by
  rw [run.findType?_eq] at h
  exact List.mem_of_getLast? h

theorem findType?_of_prepare {spec checked : NewTask} (h : s.prepare spec = .ok checked) :
    ∃ type, s.findType? checked.taskType = some type := by
  unfold State.prepare at h
  cases valid : spec.validate with
  | error failure => simp [valid, bind, Except.bind] at h
  | ok spec' =>
    simp only [valid, bind, Except.bind] at h
    cases known : s.findType? spec'.taskType with
    | none => simp [known] at h
    | some type =>
      simp only [known, Except.ok.injEq] at h
      exact ⟨type, h ▸ known⟩

/-! ### Counting attempts -/

/-- The attempts of a task are its starts. -/
theorem Journey.attempts_eq (journey : Journey policy moves t) :
    t.attempts = (moves.map Prod.fst).count .start := by
  induction journey with
  | created => rfl
  | moved journey move ih =>
    rw [List.map_append, List.count_append, Int.natCast_add, ← ih]
    cases move with
    | claim | complete | fail | cancel => exact (Int.add_zero _).symm
    | start => rfl

theorem Journey.attempts_of_pending (journey : Journey policy moves t) (h : t.status = .pending) :
    t.attempts = 0 := by
  rw [journey.attempts_eq, journey.word_of_pending h]
  rfl

/-- What a claim takes has fewer attempts than its type allows. -/
theorem Run.attempts_lt_of_claim (run : Run policy {} history s) (found : s.find? id = some t)
    (move : Moves policy s t .claim t') : t'.attempts = t.attempts ∧
      ∃ type, s.findType? t.taskType = some type ∧ t.attempts < type.maxAttempts := by
  cases move with
  | claim worker now claimable =>
    refine ⟨rfl, ?_⟩
    obtain ⟨type, known, ⟨pending, _⟩ | ⟨_, _, left, _⟩, _⟩ := State.isClaimable_iff.1 claimable
    · -- no ceiling is looked at here, but a pending task has no attempts and every type allows one
      have fits := run.ceilingFits (run.mem_registrations known)
      refine ⟨type, known, ?_⟩
      rw [(run.journey found).attempts_of_pending pending]
      exact Int.lt_of_lt_of_le Int.zero_lt_one fits.1
    · exact ⟨type, known, left⟩

/-! ### The ceiling of a row -/

/-- The registrations that bound the attempts of a row: one bounded the last claim, and one decided
at the last failure whether attempts are left. -/
structure Ceiling (history : List Exchange) (t : Task) : Prop where
  bounded : ∃ type ∈ registrations history t.taskType,
    t.attempts ≤ type.maxAttempts ∧ (t.status = .claimed → t.attempts < type.maxAttempts)
  exhausted : t.status = .failed → ∃ type ∈ registrations history t.taskType,
    (t.completedAt.isSome ↔ type.maxAttempts ≤ t.attempts)

theorem Ceiling.concat (h : Ceiling history t) (x : Exchange) : Ceiling (history ++ [x]) t := by
  obtain ⟨⟨type, htype, le, lt⟩, exhausted⟩ := h
  constructor
  · exact ⟨type, by simp [htype], le, lt⟩
  · intro failed
    obtain ⟨type, htype, iff⟩ := exhausted failed
    exact ⟨type, by simp [htype], iff⟩

theorem completedAt_failedRow {message : String} {now : Timestamp} :
    (failedRow policy type message now t).completedAt.isSome ↔ type.maxAttempts ≤ t.attempts := by
  simp only [failedRow, Backoff.Policy.failureSchedule]
  split
  · rename_i h
    exact iff_of_true rfl h
  · rename_i h
    exact iff_of_false Bool.false_ne_true h

/-- A transition keeps the attempts of a row below a registered ceiling. -/
theorem Ceiling.moved {action : Action} (h : Ceiling history t) (run : Run policy {} history s)
    (found : s.find? id = some t) (move : Moves policy s t action t') : Ceiling history t' := by
  obtain ⟨type, htype, le, lt⟩ := h.bounded
  cases move with
  | claim worker now claimable =>
    obtain ⟨_, type, known, lt⟩ := run.attempts_lt_of_claim found (.claim worker now claimable)
    exact ⟨⟨type, run.mem_registrations known, Int.le_of_lt lt, fun _ => lt⟩, nofun⟩
  -- the claim left room for one attempt, whatever the ceiling has become since
  | start now claimed => exact ⟨⟨type, htype, lt claimed, nofun⟩, nofun⟩
  | complete now processing => exact ⟨⟨type, htype, le, nofun⟩, nofun⟩
  | fail type' message now processing known =>
    exact ⟨⟨type, htype, le, nofun⟩,
      fun _ => ⟨type', run.mem_registrations known, completedAt_failedRow⟩⟩
  | cancel now open_ => exact ⟨⟨type, htype, le, nofun⟩, nofun⟩

/-- In every run, the attempts of every row stay within a registered ceiling. -/
theorem Run.ceiling (run : Run policy {} history s) (found : s.find? id = some t) :
    Ceiling history t := by
  refine run.rows (P := Ceiling) ?_ ?_ ?_ found
  · intro history x t ih _
    exact ih.concat x
  · intro history s x spec checked id now run accepted _ _
    obtain ⟨type, known⟩ := findType?_of_prepare accepted
    have registered := run.mem_registrations known
    have fits := run.ceilingFits registered
    have zero_le : (0 : Int) ≤ type.maxAttempts := Int.le_trans Int.one_nonneg fits.1
    have row : Ceiling history (Task.ofNew checked id now) :=
      ⟨⟨type, registered, zero_le, by simp [Task.ofNew]⟩, by simp [Task.ofNew]⟩
    exact row.concat x
  · intro history s x t action t' run found ih _ move
    exact (ih.moved run found move).concat x

/-! ### Histories -/

/-- What is promised of attempts after a history. -/
structure AttemptsBounded (policy : Backoff.Policy) (history : List Exchange) (s : State) :
    Prop where
  /-- The attempts of a task are the times that it was started. -/
  counted : ∀ id t, s.find? id = some t →
    t.attempts = ((movesOf history id).map Prod.fst).count .start
  /-- They do not exceed the largest ceiling that the type has been registered with. -/
  bounded : ∀ id t, s.find? id = some t →
    ∃ m, ((registrations history t.taskType).map (·.maxAttempts)).max? = some m ∧ t.attempts ≤ m
  /-- A claim returns tasks with fewer attempts than their types allow at that time, and one attempt
  more does not exceed the word. -/
  claimed : ∀ x s', Step policy s x s' → ∀ t ∈ x.batch, ∃ type,
    s.findType? t.taskType = some type ∧ t.attempts < type.maxAttempts ∧
      t.attempts + 1 ≤ IntRange.int32.hi
  /-- A start adds one attempt, which does not exceed the word. -/
  started : ∀ id t now t' s', s.find? id = some t → (Update.start id now).on s = (.ok t', s') →
    t'.attempts = t.attempts + 1 ∧ t.attempts + 1 ≤ IntRange.int32.hi
  /-- If all registrations of a type have one ceiling, it is never exceeded, and a failed task is
  stamped as completed if and only if the ceiling is reached. -/
  steady : ∀ id t m, s.find? id = some t →
    (∀ type ∈ registrations history t.taskType, type.maxAttempts = m) →
      t.attempts ≤ m ∧ (t.status = .failed → (t.completedAt.isSome ↔ t.attempts = m))

/-- In every run, attempts count starts and are bounded by registered ceilings. -/
theorem attempts_bounded (run : Run policy {} history s) : AttemptsBounded policy history s where
  counted id t found := (run.journey found).attempts_eq
  bounded id t found := by
    obtain ⟨type, htype, le, -⟩ := (run.ceiling found).bounded
    have mem : type.maxAttempts ∈ (registrations history t.taskType).map (·.maxAttempts) :=
      List.mem_map_of_mem htype
    obtain ⟨m, max⟩ := Option.isSome_iff_exists.1 (List.isSome_max?_of_mem mem)
    exact ⟨m, max, Int.le_trans le ((List.max?_eq_some_iff.1 max).2 _ mem)⟩
  claimed x s' step t ht := by
    obtain ⟨t₀, found, move⟩ := step.claim_of_mem_batch (run.keyed keyed_empty) ht
    obtain ⟨attempts_eq, type, known, lt⟩ := run.attempts_lt_of_claim found move
    have fits := run.ceilingFits (run.mem_registrations known)
    rw [move.taskType_eq, attempts_eq]
    exact ⟨type, known, lt, Int.le_trans lt fits.2⟩
  started id t now t' s' found h := by
    obtain ⟨t₀, found', claimed, rfl, -⟩ := Update.on_start_eq_ok_iff.1 h
    obtain rfl := Option.some.inj (found.symm.trans found')
    obtain ⟨type, htype, -, lt⟩ := (run.ceiling found).bounded
    exact ⟨rfl, Int.le_trans (lt claimed) (run.ceilingFits htype).2⟩
  steady id t m found same := by
    obtain ⟨type, htype, le, -⟩ := (run.ceiling found).bounded
    rw [same type htype] at le
    refine ⟨le, fun failed => ?_⟩
    obtain ⟨type, htype, iff⟩ := (run.ceiling found).exhausted failed
    rw [iff, same type htype]
    omega

/-- A task of one attempt whose type is registered with another ceiling before its failure. -/
def recountedCalls : List Call :=
  [.upsertType ⟨"mail", 1, 0, none⟩ .epoch,
    .enqueue { taskType := "mail", payload := .null } ⟨1⟩ .epoch,
    .claim "a" 5 .epoch, .start ⟨1⟩ .epoch, .upsertType ⟨"mail", 2, 0, none⟩ .epoch,
    .fail ⟨1⟩ "refused" .epoch, .claim "b" 5 .epoch, .start ⟨1⟩ .epoch]

theorem attempts_bounded_of_recounted : ∃ history s, Run {} {} history s ∧
    s.tasks.map (·.attempts) = [2] ∧
    (registrations history "mail").map (·.maxAttempts) = [1, 2] ∧ AttemptsBounded {} history s := by
  have run : Run {} {} (replay {} {} recountedCalls).1 (replay {} {} recountedCalls).2 :=
    run_replay (by decide +kernel)
  exact ⟨_, _, run, by decide +kernel, by decide +kernel, attempts_bounded run⟩

end WorkQueue.Memory
