import WorkQueue.Memory.State
import WorkQueue.Proofs.Settings.Acceptance
import WorkQueue.Proofs.Settings.Guessing
import WorkQueue.Proofs.Settings.Loading
import WorkQueue.Settings.Conversion

/-!
# The name of a worker in a variable

A worker may be named by a variable instead of a file. Its tasks then bear the text of the variable,
unless this text is another spelling of a truth value or a number.

## Main definitions

* `Settings.idVariable`: the variable that names a worker
* `Settings.Worker.NamedBy`: the name under which settings let a worker claim

## Main statements

* `Settings.load_named`: settings that can be loaded are loaded with the variable, too, and name the
  worker by its text as it is written out
* `Settings.named_alike`: workers that are given different names may get the same one
-/

namespace WorkQueue.Settings

variable {t t' : Table} {s : Settings} {id : String} {before after : List (String × String)}

/-- The variable that names a worker. -/
def idVariable : String := "TASK_QUEUE__WORKER__WORKER_ID"

/-! ### One more variable -/

theorem variableTable_eq_nil (alone : ∀ v ∈ before, settingName? v.1 = none) :
    variableTable before = [] := by
  rw [variableTable, List.filterMap_eq_nil_iff]
  rintro ⟨name, text⟩ mem
  simp [alone _ mem]

theorem variableTable_named (alone : ∀ v ∈ before ++ after, settingName? v.1 = none) :
    variableTable (before ++ (idVariable, id) :: after) = [("worker.worker_id", guess id)] := by
  obtain ⟨first, last⟩ := List.forall_mem_append.1 alone
  have named : settingName? idVariable = some "worker.worker_id" := by decide
  have last_first : variableTable ((idVariable, id) :: after) =
      ("worker.worker_id", guess id) :: variableTable after := by
    simp [variableTable, named]
  have split : variableTable (before ++ (idVariable, id) :: after) =
      variableTable before ++ variableTable ((idVariable, id) :: after) := List.filterMap_append
  rw [split, last_first, variableTable_eq_nil first, variableTable_eq_nil last, List.nil_append]

/-- In a table the worker is named, and nothing else is changed. -/
structure NamedIn (id : String) (t t' : Table) : Prop where
  worker : t'.find? "worker" =
    some (Tree.putAt (guess id) [.name "worker_id"] ((t.find? "worker").getD .null))
  others : ∀ name ≠ "worker", t'.find? name = t.find? name

theorem namedIn_putNamed (id : String) (t : Table) :
    NamedIn id t (t.putNamed "worker.worker_id" (guess id)) := by
  have spelled : Path.ofName "worker.worker_id" = [.name "worker", .name "worker_id"] := by decide
  have folded : foldName "worker" = "worker" := by decide
  rw [Table.putNamed, spelled]
  constructor
  · have found := Tree.find?_putAt_self (guess id) "worker" [.name "worker_id"] (.table t)
    rw [folded] at found
    exact found
  · intro name other
    exact Tree.find?_putAt_of_ne (folded ▸ other.symm) (guess id) [.name "worker_id"] (.table t)

/-- The address of the database has its own place. -/
theorem NamedIn.putNamed_url (named : NamedIn id t t') (url : Tree) :
    NamedIn id (t.putNamed "database.url" url) (t'.putNamed "database.url" url) := by
  have spelled : Path.ofName "database.url" = [.name "database", .name "url"] := by decide
  have folded : foldName "database" = "database" := by decide
  rw [Table.putNamed, Table.putNamed, spelled]
  constructor
  · rw [Tree.find?_putAt_of_ne (by decide), Tree.find?_putAt_of_ne (by decide)]
    exact named.worker
  · intro name other
    by_cases here : name = "database"
    · subst here
      have found := Tree.find?_putAt_self url "database" [.name "url"] (.table t)
      have found' := Tree.find?_putAt_self url "database" [.name "url"] (.table t')
      rw [folded] at found found'
      rw [found, found', Tree.entries_table, Tree.entries_table, named.others _ other]
    · rw [Tree.find?_putAt_of_ne (folded ▸ Ne.symm here),
        Tree.find?_putAt_of_ne (folded ▸ Ne.symm here)]
      exact named.others name other

theorem namedIn_layered (id : String) (base : Table) (overlay : Option Table)
    (url : Option String) (alone : ∀ v ∈ before ++ after, settingName? v.1 = none) :
    NamedIn id (layered base overlay (before ++ after) url)
      (layered base overlay (before ++ (idVariable, id) :: after) url) := by
  simp only [layered, variableTable_eq_nil alone, variableTable_named alone, Table.putAll,
    List.foldl_cons, List.foldl_nil]
  cases url with
  | none => exact namedIn_putNamed id _
  | some url => exact (namedIn_putNamed id _).putNamed_url (.text url)

/-! ### The section on workers -/

theorem Fields.read?_replace_self {α : Type} (fields : Fields) (name : String) (value : Tree)
    (default : α) (item : Tree → Option α) :
    Fields.read? (Table.replace name value fields) name default item = item value := by
  rw [Fields.read?, Table.find?_replace_self]

theorem Fields.read?_replace_of_ne {α : Type} {name other : String} (ne : other ≠ name)
    (fields : Fields) (value : Tree) (default : α) (item : Tree → Option α) :
    Fields.read? (Table.replace other value fields) name default item =
      Fields.read? fields name default item := by
  rw [Fields.read?, Fields.read?, Table.find?_replace_of_ne ne]

theorem workerOf?_replace {entries : Table} {w : Worker} {value : Tree} {name : Option String}
    (understood : workerOf? (.table entries) = some w)
    (converted : value.toOption? Tree.toText? = some name) :
    workerOf? (.table (entries.replace "worker_id" value)) = some { w with workerId := name } := by
  simp only [workerOf?, fields?, Option.bind_eq_bind, Option.bind_some, Option.bind_eq_some_iff]
    at understood
  obtain ⟨_, -, _, size, _, concurrency, _, interval, _, timeout, _, listen, same⟩ := understood
  cases same
  have keep {α : Type} (key : String) (ne : "worker_id" ≠ key) (default : α)
      (item : Tree → Option α) := Fields.read?_replace_of_ne ne entries value default item
  simp only [workerOf?, fields?, Option.bind_eq_bind, Option.bind_some,
    Fields.read?_replace_self, converted, keep "batch_size" (by decide),
    keep "max_concurrency" (by decide), keep "poll_interval_ms" (by decide),
    keep "shutdown_timeout_seconds" (by decide), keep "listen_for_notifications" (by decide),
    size, concurrency, interval, timeout, listen]
  rfl

theorem putAt_worker_id {value : Tree} {name : Option String}
    (converted : value.toOption? Tree.toText? = some name) (tree : Tree) :
    Tree.putAt value [.name "worker_id"] tree = .table (tree.entries.replace "worker_id" value) := by
  have folded : foldName "worker_id" = "worker_id" := by decide
  have whole (cell : Option Tree) : Tree.over cell value = value := by
    cases value with
    | table => cases converted
    | _ => rfl
  rw [Tree.putAt_name, Table.put_eq, folded, whole]

/-- A section on workers is still understood with a name set in it. Where it is no table, the name is
all that is left of it. -/
theorem exists_worker {w : Worker} {value : Tree} {name : Option String}
    (understood : Fields.read? t "worker" {} workerOf? = some w)
    (converted : value.toOption? Tree.toText? = some name) : ∃ w₀, (w₀ = w ∨ w₀ = {}) ∧
      workerOf? (Tree.putAt value [.name "worker_id"] ((t.find? "worker").getD .null)) =
        some { w₀ with workerId := name } := by
  have nothing : workerOf? (.table []) = some {} := rfl
  rw [putAt_worker_id converted]
  rw [Fields.read?] at understood
  cases found : t.find? "worker" with
  | none => exact ⟨{}, .inr rfl, workerOf?_replace nothing converted⟩
  | some tree =>
    rw [found] at understood
    cases tree with
    | table entries => exact ⟨w, .inl rfl, workerOf?_replace understood converted⟩
    | _ => exact ⟨{}, .inr rfl, workerOf?_replace nothing converted⟩

/-- Settings that are understood are still understood when the worker is named. -/
theorem ofTable?_of_namedIn (named : NamedIn id t t') (held : ofTable? t = some s) :
    ∃ w₀, (w₀ = s.worker ∨ w₀ = {}) ∧
      ofTable? t' = some { s with worker := { w₀ with workerId := some (rewritten id) } } := by
  simp only [ofTable?, Option.bind_eq_bind, Option.bind_eq_some_iff] at held
  obtain ⟨_, database, _, worker, _, backoff, _, monitor, _, types, same⟩ := held
  cases same
  obtain ⟨w₀, origin, understood⟩ := exists_worker worker (toOption?_guess id)
  refine ⟨w₀, origin, ?_⟩
  have keep {α : Type} (key : String) (ne : key ≠ "worker") (default : α)
      (item : Tree → Option α) :
      Fields.read? t' key default item = Fields.read? t key default item := by
    rw [Fields.read?, Fields.read?, named.others key ne]
  have new : Fields.read? t' "worker" {} workerOf? =
      some { w₀ with workerId := some (rewritten id) } := by
    rw [Fields.read?, named.worker]
    exact understood
  simp only [ofTable?, Option.bind_eq_bind, Option.bind_some, new, keep "database" (by decide),
    keep "backoff" (by decide), keep "monitor" (by decide), keep "task_types" (by decide),
    database, backoff, monitor, types]
  rfl

/-- A name is never out of bounds. -/
theorem validate_named {w₀ : Worker} (valid : s.validate = .ok ())
    (origin : w₀ = s.worker ∨ w₀ = {}) (name : Option String) :
    ({ s with worker := { w₀ with workerId := name } } : Settings).validate = .ok () := by
  obtain ⟨sections, types⟩ := validate_eq_ok_iff.1 valid
  refine validate_eq_ok_iff.2 ⟨?_, types⟩
  rcases origin with rfl | rfl
  · exact { sections with }
  · exact { sections with
      batchSize := Nat.succ_pos 9
      maxConcurrency := Nat.succ_pos 3
      pollIntervalMs := Nat.succ_pos 4999 }

/-! ### Loading with a name -/

namespace Surroundings

variable {file? : String → Option String} {directory environment : String}

/-- A variable for the name of a worker does not change where the database is looked for. -/
theorem lookup?_named (name : String) (ne : idVariable ≠ name) :
    lookup? ⟨file?, before ++ (idVariable, id) :: after⟩ name =
      lookup? ⟨file?, before ++ after⟩ name := by
  simp [lookup?, List.find?_append, ne]

theorem sources?_named {src : Sources}
    (read : sources? ⟨file?, before ++ after⟩ directory environment = some src) :
    sources? ⟨file?, before ++ (idVariable, id) :: after⟩ directory environment =
      some { src with vars := before ++ (idVariable, id) :: after } := by
  obtain ⟨base, overlay, -, url⟩ := sources?_eq_some_iff.1 read
  exact sources?_eq_some_iff.2
    ⟨base, overlay, rfl, url.trans (lookup?_named "DATABASE_URL" (by decide)).symm⟩

end Surroundings

/-- How a worker is named whose settings were loaded with a name in the variable. -/
structure Worker.NamedBy (w : Worker) (id : String) : Prop where
  workerId : w.workerId = some (rewritten id)
  /-- The name arrives as it is unless it is another spelling of a truth value or a number. -/
  verbatim : w.workerId = some id ↔ ¬ Respelled id
  /-- So does every name with a character that occurs in no such value. -/
  foreign : ∀ c ∈ id.toList, isValueChar c = false → w.workerId = some id
  /-- All spellings of an integer are one name, its plain digits. -/
  integer : ∀ n, Text.word? 10 id.toList = some n → w.workerId = some (toString n)
  plain : ∀ n : Int, IntRange.int64.lo ≤ n → n ≤ IntRange.int64.hi → id = toString n →
    w.workerId = some id
  resolved : ∀ process fresh, w.resolvedId process fresh = rewritten id
  /-- The tasks that the worker claims bear the name. -/
  stamped : ∀ (rows : Memory.State) process fresh limit now,
    ∀ task ∈ (rows.claim (w.resolvedId process fresh) limit now).1,
      task.claimedBy = some (rewritten id)

theorem Worker.namedBy_of_workerId {w : Worker} (named : w.workerId = some (rewritten id)) :
    w.NamedBy id where
  workerId := named
  verbatim := by rw [named, Option.some.injEq, rewritten_eq_self_iff]
  foreign c mem foreign := by rw [named, rewritten_of_foreign mem foreign]
  integer n spelled := by rw [named, rewritten_of_word? spelled]
  plain n low high digits := by rw [named, digits, rewritten_toString low high]
  resolved process fresh := by rw [Worker.resolvedId, named, Option.getD_some]
  stamped rows process fresh limit now task mem := by
    obtain ⟨row, -, rfl⟩ := List.mem_map.1 mem
    rw [Memory.State.claimedRow, Worker.resolvedId, named, Option.getD_some]

/-- Settings that can be loaded without a name for the worker are loaded with one, too, and the worker
is named by it. -/
theorem load_named {file? : String → Option String} {directory environment : String}
    {loaded : Loaded}
    (loads : Surroundings.Loads ⟨file?, before ++ after⟩ directory environment (.ok loaded))
    (alone : ∀ v ∈ before ++ after, settingName? v.1 = none) (id : String) :
    ∃ loaded', Surroundings.Loads ⟨file?, before ++ (idVariable, id) :: after⟩ directory environment
        (.ok loaded') ∧ loaded'.settings.worker.NamedBy id := by
  obtain ⟨⟨src, read, held⟩, valid, -, -⟩ :=
    Surroundings.outcome_eq_ok_iff.1 (Surroundings.loads_iff.1 loads)
  obtain ⟨-, -, vars, -⟩ := Surroundings.sources?_eq_some_iff.1 read
  have named := namedIn_layered id src.base src.overlay src.databaseUrl alone
  rw [Sources.layered, vars] at held
  obtain ⟨w₀, origin, held'⟩ := ofTable?_of_namedIn named held
  let settings : Settings :=
    { loaded.settings with worker := { w₀ with workerId := some (rewritten id) } }
  refine ⟨⟨settings, environment, directory⟩, Surroundings.loads_iff.2 ?_,
    Worker.namedBy_of_workerId rfl⟩
  exact Surroundings.outcome_eq_ok_iff.2 ⟨⟨_, Surroundings.sources?_named read, held'⟩,
    validate_named valid origin _, rfl, rfl⟩

/-- A base file that sets nothing. -/
def emptyBase (path : String) : Option String :=
  if path = "config/task-queue.yaml" then some "" else none

theorem load_named_billing : ∃ loaded,
    Surroundings.Loads ⟨emptyBase, [(idVariable, "billing-1")]⟩ "config" "test" (.ok loaded) ∧
      loaded.settings.worker.workerId = some "billing-1" := by
  have loads : Surroundings.Loads ⟨emptyBase, []⟩ "config" "test" (.ok ⟨{}, "test", "config"⟩) :=
    Surroundings.loads_iff.2 (by decide +kernel)
  have alone : ∀ v ∈ ([] ++ [] : List (String × String)), settingName? v.1 = none := by simp
  obtain ⟨loaded, loads', named⟩ := load_named loads alone "billing-1"
  exact ⟨loaded, loads', named.foreign 'b' (by decide) (by decide)⟩

/-- The names `007` and `7` are the same integer, and the worker gets the second one for both. -/
theorem named_alike : ∃ loaded loaded',
    Surroundings.Loads ⟨emptyBase, [(idVariable, "007")]⟩ "config" "test" (.ok loaded) ∧
      Surroundings.Loads ⟨emptyBase, [(idVariable, "7")]⟩ "config" "test" (.ok loaded') ∧
      loaded.settings.worker.workerId = some "7" ∧ loaded'.settings.worker.workerId = some "7" :=
  ⟨⟨{ worker := { workerId := some "7" } }, "test", "config"⟩,
    ⟨{ worker := { workerId := some "7" } }, "test", "config"⟩,
    Surroundings.loads_iff.2 (by decide +kernel), Surroundings.loads_iff.2 (by decide +kernel),
    rfl, rfl⟩

end WorkQueue.Settings
