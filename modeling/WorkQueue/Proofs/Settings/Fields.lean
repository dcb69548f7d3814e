import Mathlib.Tactic.FinCases
import WorkQueue.Proofs.Settings.Layers
import WorkQueue.Settings.Conversion

/-!
# Fields of settings

Settings are made of fields, each of which is understood from the value at its own place, and has its
default where no value stands. Sections that are tables are thereby seen field by field.

## Main definitions

* `Settings.Member`: a part of a section; `Settings.Field`: a part of all settings
* `Settings.fields`: all fields
* `Settings.Field.read`: the value of a field from what stands at its place

## Main statements

* `Settings.eq_of_fields`: the fields are all that settings consist of
* `Settings.read_of_ofTable?`: settings are understood field by field
-/

namespace WorkQueue.Settings

/-! ### Members of sections -/

/-- A part of a section: its name, where it is kept, and how it is understood. -/
structure Member (α : Type) where
  name : String
  {Value : Type}
  get : α → Value
  convert : Tree → Option Value

/-- The value of a member among the given fields of its section. -/
def Member.read {α : Type} (m : Member α) (default : α) (given : Fields) : Option m.Value :=
  given.read? m.name (m.get default) m.convert

/-- A section that is a table is understood member by member. -/
def Describes {α : Type} (members : List (Member α)) (default : α)
    (understood : Tree → Option α) : Prop :=
  ∀ entries part, understood (.table entries) = some part →
    ∀ m ∈ members, m.read default entries = some (m.get part)

def databaseMembers : List (Member Database) :=
  [⟨"url", (·.url), Tree.toText?⟩,
    ⟨"max_connections", (·.maxConnections), Tree.toNat32?⟩,
    ⟨"min_connections", (·.minConnections), Tree.toNat32?⟩,
    ⟨"acquire_timeout_seconds", (·.acquireTimeoutSeconds), Tree.toNat64?⟩,
    ⟨"run_migrations", (·.runMigrations), Tree.toBool?⟩]

def workerMembers : List (Member Worker) :=
  [⟨"worker_id", (·.workerId), Tree.toOption? Tree.toText?⟩,
    ⟨"batch_size", (·.batchSize), Tree.toNat32?⟩,
    ⟨"max_concurrency", (·.maxConcurrency), Tree.toNat64?⟩,
    ⟨"poll_interval_ms", (·.pollIntervalMs), Tree.toNat64?⟩,
    ⟨"shutdown_timeout_seconds", (·.shutdownTimeoutSeconds), Tree.toNat64?⟩,
    ⟨"listen_for_notifications", (·.listenForNotifications), Tree.toBool?⟩]

def backoffMembers : List (Member Backoff.Policy) :=
  [⟨"strategy", (·.strategy), Tree.toStrategy?⟩,
    ⟨"max_delay_seconds", (·.maxDelaySeconds), Tree.toInt64?⟩]

def monitorMembers : List (Member Monitor) :=
  [⟨"check_interval_seconds", (·.checkIntervalSeconds), Tree.toNat64?⟩,
    ⟨"pending_tasks", (·.pendingTasks), Tree.toInt64?⟩,
    ⟨"failed_tasks", (·.failedTasks), Tree.toInt64?⟩,
    ⟨"failure_rate", (·.failureRate), Tree.toBinary?⟩]

theorem describes_databaseMembers : Describes databaseMembers {} databaseOf? := by
  intro entries part understood
  simp only [databaseOf?, fields?, Option.bind_eq_bind, Option.bind_some, Option.bind_eq_some_iff]
    at understood
  obtain ⟨_, url, _, maximum, _, minimum, _, timeout, _, migrations, same⟩ := understood
  cases same
  simpa [databaseMembers, Member.read] using ⟨url, maximum, minimum, timeout, migrations⟩

theorem describes_workerMembers : Describes workerMembers {} workerOf? := by
  intro entries part understood
  simp only [workerOf?, fields?, Option.bind_eq_bind, Option.bind_some, Option.bind_eq_some_iff]
    at understood
  obtain ⟨_, id, _, size, _, concurrency, _, interval, _, timeout, _, listen, same⟩ := understood
  cases same
  simpa [workerMembers, Member.read] using ⟨id, size, concurrency, interval, timeout, listen⟩

theorem describes_backoffMembers : Describes backoffMembers {} backoffOf? := by
  intro entries part understood
  simp only [backoffOf?, fields?, Option.bind_eq_bind, Option.bind_some, Option.bind_eq_some_iff]
    at understood
  obtain ⟨_, strategy, _, delay, same⟩ := understood
  cases same
  simpa [backoffMembers, Member.read] using ⟨strategy, delay⟩

theorem describes_monitorMembers : Describes monitorMembers {} monitorOf? := by
  intro entries part understood
  simp only [monitorOf?, fields?, Option.bind_eq_bind, Option.bind_some, Option.bind_eq_some_iff]
    at understood
  obtain ⟨_, interval, _, pending, _, failed, _, rate, same⟩ := understood
  cases same
  simpa [monitorMembers, Member.read] using ⟨interval, pending, failed, rate⟩

/-! ### Fields -/

/-- A part of all settings: its place, where it is kept, and how it is understood. -/
structure Field where
  place : List String
  {Value : Type}
  get : Settings → Value
  convert : Tree → Option Value

/-- The value of a field from what stands at its place. -/
def Field.read (f : Field) : Option Tree → Option f.Value
  | none => some (f.get {})
  | some tree => f.convert tree

/-- A member of a section as a field. -/
def Member.field {α : Type} (name : String) (part : Settings → α) (m : Member α) : Field :=
  ⟨[name, m.name], fun s => m.get (part s), m.convert⟩

/-- The field that holds the declared task types. -/
def taskTypesField : Field := ⟨["task_types"], (·.taskTypes), Tree.toList? taskTypeOf?⟩

/-- All fields. -/
def fields : List Field :=
  databaseMembers.map (Member.field "database" (·.database)) ++
    workerMembers.map (Member.field "worker" (·.worker)) ++
    backoffMembers.map (Member.field "backoff" (·.backoff)) ++
    monitorMembers.map (Member.field "monitor" (·.monitor)) ++ [taskTypesField]

/-- The fields are all that settings consist of. -/
theorem eq_of_fields {s s' : Settings} (same : ∀ f ∈ fields, f.get s = f.get s') : s = s' := by
  obtain ⟨⟨_, _, _, _, _⟩, ⟨_, _, _, _, _, _⟩, ⟨_, _⟩, ⟨_, _, _, _⟩, _⟩ := s
  obtain ⟨⟨_, _, _, _, _⟩, ⟨_, _, _, _, _, _⟩, ⟨_, _⟩, ⟨_, _, _, _⟩, _⟩ := s'
  simp [fields, databaseMembers, workerMembers, backoffMembers, monitorMembers, Member.field,
    taskTypesField] at same
  simp [same]

theorem place_ne_nil {f : Field} (mem : f ∈ fields) : f.place ≠ [] := by
  fin_cases mem <;> exact List.cons_ne_nil _ _

/-- No field can be understood from an empty table. -/
theorem convert_table_nil {f : Field} (mem : f ∈ fields) : f.convert (.table []) = none := by
  fin_cases mem <;> rfl

/-- The fields of a section are understood as its members are. -/
theorem read_of_section {α : Type} {members : List (Member α)} {name : String}
    {part : Settings → α} {understood : Tree → Option α} {t : Table} {s : Settings}
    (describes : Describes members (part {}) understood)
    (held : Fields.read? t name (part {}) understood = some (part s)) {f : Field}
    (mem : f ∈ members.map (Member.field name part)) (branches : Tree.Branches f.place (.table t)) :
    f.read (Tree.at? f.place (.table t)) = some (f.get s) := by
  obtain ⟨m, member, rfl⟩ := List.mem_map.1 mem
  have there : Tree.at? (m.field name part).place (.table t) =
    (t.find? name).bind (Tree.at? [m.name]) := rfl
  rw [Fields.read?] at held
  cases found : t.find? name with
  | none =>
    rw [found] at held
    have default : part {} = part s := Option.some.inj held
    rw [there, found]
    exact congrArg (fun part => some (m.get part)) default
  | some inner =>
    rw [found] at held
    obtain ⟨⟨entries, rfl⟩, -⟩ := branches inner found
    rw [there, found, Option.bind_some, Tree.at?_singleton]
    exact describes entries _ held m member

/-- Settings are understood field by field. -/
theorem read_of_ofTable? {t : Table} {s : Settings} (held : ofTable? t = some s) {f : Field}
    (mem : f ∈ fields) (branches : Tree.Branches f.place (.table t)) :
    f.read (Tree.at? f.place (.table t)) = some (f.get s) := by
  simp only [ofTable?, Option.bind_eq_bind, Option.bind_eq_some_iff] at held
  obtain ⟨_, database, _, worker, _, backoff, _, monitor, _, types, same⟩ := held
  cases same
  simp only [fields, List.mem_append] at mem
  rcases mem with (((mem | mem) | mem) | mem) | mem
  · exact read_of_section describes_databaseMembers database mem branches
  · exact read_of_section describes_workerMembers worker mem branches
  · exact read_of_section describes_backoffMembers backoff mem branches
  · exact read_of_section describes_monitorMembers monitor mem branches
  · obtain rfl := List.mem_singleton.1 mem
    have there : Tree.at? taskTypesField.place (.table t) = t.find? "task_types" :=
      Tree.at?_singleton _ _
    rw [there]
    exact types

end WorkQueue.Settings
