import WorkQueue.Proofs.Binary64.Values
import WorkQueue.Settings.Validation
import Mathlib.Data.List.Nodup

/-!
# Accepted settings

Settings are checked section by section, and the declared task types one after the other. What is
accepted is said here without any order; of what is refused, the first fault is reported.

## Main definitions

* `NewTaskType.Valid`: a type with a name, an attempt at least, and no negative delay
* `Settings.SectionsValid`: the values outside of the declared types keep their bounds
* `Settings.TypesValid`: the declared types are valid, and their names differ
* `Settings.Faulty`: what is wrong with an entry that comes behind others

## Main statements

* `Settings.isShare_iff`: shares are the numbers between zero and one
* `Settings.validateTypes_eq_ok_iff`, `Settings.validateTypes_eq_error_iff`: the declared types
* `Settings.validate_eq_ok_iff`, `Settings.validate_eq_error_iff`: all settings
-/

namespace WorkQueue

/-- A type with a name that may be attempted, and whose delay is not negative. -/
structure NewTaskType.Valid (t : NewTaskType) : Prop where
  name : Text.isBlank t.name = false
  maxAttempts : 1 ≤ t.maxAttempts
  retryBackoffSeconds : 0 ≤ t.retryBackoffSeconds

theorem NewTaskType.validate_eq_ok_iff {t : NewTaskType} : t.validate = .ok () ↔ t.Valid := by
  unfold validate
  constructor
  · intro accepted
    split at accepted
    · cases accepted
    · rename_i named
      split at accepted
      · cases accepted
      · split at accepted
        · cases accepted
        · exact ⟨by simpa using named, by omega, by omega⟩
  · rintro ⟨named, attempts, delay⟩
    simp [named, Int.not_lt.2 attempts, Int.not_lt.2 delay]

namespace Settings

variable {s : Settings} {seen : List String} {entries before after : List TaskTypeEntry}
  {entry : TaskTypeEntry} {e : Error}

/-! ### Shares -/

/-- A share is a number between zero and one. -/
theorem isShare_iff {x : Binary64} : isShare x ↔ x.IsFinite ∧ 0 ≤ x.value ∧ x.value ≤ 1 := by
  obtain ⟨one_finite, one_eq⟩ := Binary64.value_ofNat (n := 1) (by decide)
  have one_number : (Binary64.ofNat 1).isNaN = false := Binary64.isNaN_of_isFinite one_finite
  have zero_number : Binary64.zero.isNaN = false := by decide
  rw [isShare, Bool.and_eq_true, Binary64.le_iff, Binary64.le_iff, Binary64.value_zero, one_eq,
    one_number, zero_number, Nat.cast_one]
  constructor
  · rintro ⟨⟨-, -, nonneg⟩, -, -, le_one⟩
    refine ⟨?_, nonneg, le_one⟩
    have le_value : |x.value| ≤ |(Binary64.ofNat 1).value| := by
      rw [one_eq, Nat.cast_one, abs_one, abs_of_nonneg nonneg]
      exact le_one
    rw [Binary64.abs_value, Binary64.abs_value,
      div_le_div_iff_of_pos_right Binary64.unitsPerOne_pos, Nat.cast_le,
      Binary64.strictMono_units.le_iff_le] at le_value
    exact le_value.trans_lt one_finite
  · rintro ⟨finite, nonneg, le_one⟩
    have number := Binary64.isNaN_of_isFinite finite
    exact ⟨⟨by simp, by simp [number], nonneg⟩, by simp [number], by simp, le_one⟩

/-! ### Declared types -/

/-- The declared types are valid, and their names differ. -/
structure TypesValid (entries : List TaskTypeEntry) : Prop where
  valid : ∀ entry ∈ entries, entry.toNew.Valid
  distinct : (entries.map (·.name)).Nodup

theorem typesValid_nil : TypesValid [] := ⟨by simp, List.nodup_nil⟩

theorem typesValid_cons : TypesValid (entry :: entries) ↔
    entry.toNew.Valid ∧ entry.name ∉ entries.map (·.name) ∧ TypesValid entries := by
  constructor
  · rintro ⟨valid, distinct⟩
    obtain ⟨first, rest⟩ := List.forall_mem_cons.1 valid
    obtain ⟨fresh, distinct⟩ := List.nodup_cons.1 distinct
    exact ⟨first, fresh, rest, distinct⟩
  · rintro ⟨first, fresh, rest, distinct⟩
    exact ⟨List.forall_mem_cons.2 ⟨first, rest⟩, List.nodup_cons.2 ⟨fresh, distinct⟩⟩

/-- What is wrong with an entry that comes behind others with the given names. -/
inductive Faulty (names : List String) (entry : TaskTypeEntry) : String → Prop where
  | invalid {failure : Failure} (refused : entry.toNew.validate = .error failure) :
      Faulty names entry failure.message
  | repeated (valid : entry.toNew.Valid) (earlier : entry.name ∈ names) :
      Faulty names entry "task type declared more than once"

theorem faulty_congr {names names' : List String} {context : String}
    (same : ∀ name, name ∈ names ↔ name ∈ names') :
    Faulty names entry context ↔ Faulty names' entry context := by
  constructor
  · rintro (refused | ⟨valid, earlier⟩)
    · exact .invalid refused
    · exact .repeated valid ((same _).1 earlier)
  · rintro (refused | ⟨valid, earlier⟩)
    · exact .invalid refused
    · exact .repeated valid ((same _).2 earlier)

theorem valid_or_faulty (names : List String) (entry : TaskTypeEntry) :
    (entry.toNew.Valid ∧ entry.name ∉ names) ∨ ∃ context, Faulty names entry context := by
  cases validated : entry.toNew.validate with
  | error failure => exact .inr ⟨_, .invalid validated⟩
  | ok _ =>
    have valid := NewTaskType.validate_eq_ok_iff.1 validated
    by_cases earlier : entry.name ∈ names
    · exact .inr ⟨_, .repeated valid earlier⟩
    · exact .inl ⟨valid, earlier⟩

theorem validateTypes_of_valid (valid : entry.toNew.Valid) (fresh : entry.name ∉ seen)
    (rest : List TaskTypeEntry) :
    validateTypes seen (entry :: rest) = validateTypes (entry.name :: seen) rest := by
  rw [validateTypes, NewTaskType.validate_eq_ok_iff.2 valid]
  exact if_neg fresh

theorem validateTypes_of_faulty {context : String} (faulty : Faulty seen entry context)
    (rest : List TaskTypeEntry) : validateTypes seen (entry :: rest) =
      .error (.invalidValue "task_types" entry.name context) := by
  rw [validateTypes]
  cases faulty with
  | invalid refused => rw [refused]
  | repeated valid earlier =>
    rw [NewTaskType.validate_eq_ok_iff.2 valid]
    exact if_pos earlier

theorem validateTypes_eq_ok_iff : validateTypes seen entries = .ok () ↔
    TypesValid entries ∧ ∀ entry ∈ entries, entry.name ∉ seen := by
  induction entries generalizing seen with
  | nil => simp [validateTypes, typesValid_nil]
  | cons entry rest ih =>
    rw [typesValid_cons, List.forall_mem_cons]
    rcases valid_or_faulty seen entry with ⟨valid, fresh⟩ | ⟨context, faulty⟩
    · rw [validateTypes_of_valid valid fresh, ih]
      constructor
      · rintro ⟨types, unseen⟩
        refine ⟨⟨valid, fun twice => ?_, types⟩, fresh, fun other mem => ?_⟩
        · obtain ⟨other, mem, same⟩ := List.mem_map.1 twice
          exact unseen other mem (same ▸ List.mem_cons_self)
        · exact fun earlier => unseen other mem (List.mem_cons_of_mem _ earlier)
      · rintro ⟨⟨-, once, types⟩, -, unseen⟩
        refine ⟨types, fun other mem earlier => ?_⟩
        rcases List.mem_cons.1 earlier with same | earlier
        · exact once (same ▸ List.mem_map_of_mem mem)
        · exact unseen other mem earlier
    · rw [validateTypes_of_faulty faulty]
      refine ⟨fun never => (by cases never), fun accepted => ?_⟩
      cases faulty with
      | invalid refused =>
        rw [NewTaskType.validate_eq_ok_iff.2 accepted.1.1] at refused
        cases refused
      | repeated _ earlier => exact absurd earlier accepted.2.1

/-- Accepted entries are passed over, and their names kept in mind. -/
theorem validateTypes_append (accepted : validateTypes seen before = .ok ())
    (rest : List TaskTypeEntry) : validateTypes seen (before ++ rest) =
      validateTypes ((before.map (·.name)).reverse ++ seen) rest := by
  induction before generalizing seen with
  | nil => rfl
  | cons entry before ih =>
    rcases valid_or_faulty seen entry with ⟨valid, fresh⟩ | ⟨context, faulty⟩
    · rw [validateTypes_of_valid valid fresh] at accepted
      rw [List.cons_append, validateTypes_of_valid valid fresh, ih accepted]
      simp
    · rw [validateTypes_of_faulty faulty] at accepted
      cases accepted

theorem validateTypes_nil_eq_ok_iff : validateTypes [] entries = .ok () ↔ TypesValid entries := by
  rw [validateTypes_eq_ok_iff]
  exact and_iff_left fun _ _ => List.not_mem_nil

/-- Behind valid entries, an entry at fault is reported, whatever comes after it. -/
theorem validateTypes_of_split {context : String} (valid : TypesValid before)
    (faulty : Faulty (before.map (·.name)) entry context) :
    validateTypes [] (before ++ entry :: after) =
      .error (.invalidValue "task_types" entry.name context) := by
  have same : ∀ name, name ∈ (before.map (·.name)).reverse ++ [] ↔ name ∈ before.map (·.name) := by
    simp
  rw [validateTypes_append (validateTypes_nil_eq_ok_iff.2 valid)]
  exact validateTypes_of_faulty ((faulty_congr same).2 faulty) after

/-- Entries are valid, or one is the first at fault. -/
theorem typesValid_or_split (entries : List TaskTypeEntry) : TypesValid entries ∨
    ∃ before entry after context, entries = before ++ entry :: after ∧ TypesValid before ∧
      Faulty (before.map (·.name)) entry context := by
  induction entries using List.reverseRecOn with
  | nil => exact .inl typesValid_nil
  | append_singleton entries last ih =>
    rcases ih with valid | ⟨before, entry, after, context, rfl, valid, faulty⟩
    · rcases valid_or_faulty (entries.map (·.name)) last with ⟨last_valid, fresh⟩ | ⟨context, faulty⟩
      · refine .inl ⟨?_, ?_⟩
        · rw [List.forall_mem_append, List.forall_mem_singleton]
          exact ⟨valid.valid, last_valid⟩
        · rw [List.map_append, List.map_singleton, ← List.concat_eq_append]
          exact List.Nodup.concat fresh valid.distinct
      · exact .inr ⟨entries, last, [], context, rfl, valid, faulty⟩
    · exact .inr ⟨before, entry, after ++ [last], context, by simp, valid, faulty⟩

/-- The first entry that is invalid, or repeats the name of an entry before it, is reported. -/
theorem validateTypes_eq_error_iff : validateTypes [] entries = .error e ↔
    ∃ before entry after context, entries = before ++ entry :: after ∧ TypesValid before ∧
      Faulty (before.map (·.name)) entry context ∧
      e = .invalidValue "task_types" entry.name context := by
  constructor
  · intro refused
    rcases typesValid_or_split entries with valid | ⟨before, entry, after, context, rfl, valid, faulty⟩
    · rw [validateTypes_nil_eq_ok_iff.2 valid] at refused
      cases refused
    · rw [validateTypes_of_split valid faulty] at refused
      exact ⟨before, entry, after, context, rfl, valid, faulty, (Except.error.inj refused).symm⟩
  · rintro ⟨before, entry, after, context, rfl, valid, faulty, rfl⟩
    exact validateTypes_of_split valid faulty

/-! ### All settings -/

/-- The values outside of the declared types keep their bounds. -/
structure SectionsValid (s : Settings) : Prop where
  url : Text.isBlank s.database.url = false
  maxConnections : 0 < s.database.maxConnections
  batchSize : 0 < s.worker.batchSize
  maxConcurrency : 0 < s.worker.maxConcurrency
  pollIntervalMs : 0 < s.worker.pollIntervalMs
  maxDelaySeconds : 0 ≤ s.backoff.maxDelaySeconds ∧ s.backoff.maxDelaySeconds ≤ Backoff.maxDelay
  checkIntervalSeconds : 0 < s.monitor.checkIntervalSeconds
  /-- The rate is a number from zero to one. -/
  failureRate : s.monitor.failureRate.IsFinite ∧ 0 ≤ s.monitor.failureRate.value ∧
    s.monitor.failureRate.value ≤ 1

theorem require_bind {α : Type} (condition : Bool) (field value context : String)
    (rest : Unit → Except Error α) : (require condition field value context >>= rest) =
      if condition then rest () else .error (.invalidValue field value context) := by
  cases condition <;> rfl

/-- Once the sections are valid the declared types decide; otherwise another field is reported. -/
theorem validate_cases (s : Settings) :
    (s.SectionsValid ∧ s.validate = validateTypes [] s.taskTypes) ∨
      (¬ s.SectionsValid ∧ ∃ field value context,
        s.validate = .error (.invalidValue field value context) ∧ field ≠ "task_types") := by
  by_cases valid : s.SectionsValid
  · refine .inl ⟨valid, ?_⟩
    have share := isShare_iff.2 valid.failureRate
    simp [validate, require_bind, valid.url, valid.maxConnections.ne', valid.batchSize.ne',
      valid.maxConcurrency.ne', valid.pollIntervalMs.ne', valid.maxDelaySeconds,
      valid.checkIntervalSeconds.ne', share]
  · refine .inr ⟨valid, ?_⟩
    simp only [validate, require_bind]
    -- one case for each bound that may be the first one not kept
    split_ifs with url connections size concurrency interval delay check rate
    · refine absurd ⟨?_, ?_, ?_, ?_, ?_, ?_, ?_, isShare_iff.1 rate⟩ valid
      · simpa using url
      · simpa [Nat.pos_iff_ne_zero] using connections
      · simpa [Nat.pos_iff_ne_zero] using size
      · simpa [Nat.pos_iff_ne_zero] using concurrency
      · simpa [Nat.pos_iff_ne_zero] using interval
      · simpa using delay
      · simpa [Nat.pos_iff_ne_zero] using check
    all_goals exact ⟨_, _, _, rfl, by decide⟩

/-- Exactly the settings with valid sections and valid declared types are accepted. -/
theorem validate_eq_ok_iff : s.validate = .ok () ↔ s.SectionsValid ∧ TypesValid s.taskTypes := by
  rcases s.validate_cases with ⟨valid, decided⟩ | ⟨invalid, field, value, context, refused, -⟩
  · rw [decided, validateTypes_nil_eq_ok_iff]
    exact (and_iff_right valid).symm
  · rw [refused]
    exact ⟨fun never => (by cases never), fun accepted => absurd accepted.1 invalid⟩

/-- A refusal that is about the declared types names the first one at fault. -/
theorem validate_eq_error_iff {value context : String} :
    s.validate = .error (.invalidValue "task_types" value context) ↔
      s.SectionsValid ∧ ∃ before entry after, s.taskTypes = before ++ entry :: after ∧
        TypesValid before ∧ Faulty (before.map (·.name)) entry context ∧ value = entry.name := by
  rcases s.validate_cases with ⟨valid, decided⟩ | ⟨invalid, field, value', context', refused, other⟩
  · rw [decided, validateTypes_eq_error_iff, and_iff_right valid]
    constructor
    · rintro ⟨before, entry, after, context', split, accepted, faulty, same⟩
      obtain ⟨-, rfl, rfl⟩ := Error.invalidValue.inj same
      exact ⟨before, entry, after, split, accepted, faulty, rfl⟩
    · rintro ⟨before, entry, after, split, accepted, faulty, rfl⟩
      exact ⟨before, entry, after, context, split, accepted, faulty, rfl⟩
  · rw [refused]
    constructor
    · intro same
      exact absurd (Error.invalidValue.inj (Except.error.inj same)).1 other
    · exact fun accepted => absurd accepted.1 invalid

end Settings

end WorkQueue
