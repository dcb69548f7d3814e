import Mathlib.Data.List.Induction
import WorkQueue.Proofs.Settings.Fields
import WorkQueue.Proofs.Settings.Loading

/-!
# Precedence of sources

Each field of loaded settings is understood from the strongest source that sets it, and has its
default where none does. Where a stronger source sets only a part of a value, such as one item of a
list, this part is put into the value so far.

## Main definitions

* `Settings.set?`: the value that settings give to a place
* `Settings.Sources.Opens`: nothing but tables is put in front of a place
* `Settings.Sources.value?`: the value at a place in the strongest source that sets it
* `Settings.Sources.Gives`: what settings have to do with their sources

## Main statements

* `Settings.given?_eq_set?`: a value whose parts are not set comes from the last setting for it
* `Settings.Sources.read_given?`: a field is what the settings make of its place
* `Settings.load_precedence`: loaded settings come from their sources in this way
-/

namespace WorkQueue.Settings

variable {place : List String} {xs ys : List Setting} {x : Setting}

/-! ### Values given to a place -/

/-- Names lead to one place. -/
theorem Path.after?_names {keys : List String} :
    Path.after? place (keys.map .name) = some [] ↔ place = keys.map foldName := by
  induction place generalizing keys with
  | nil => cases keys <;> simp [after?]
  | cons name place ih =>
    cases keys with
    | nil => simp [after?]
    | cons key keys =>
      simp only [List.map_cons, after?, Option.ite_none_right_eq_some, List.cons.injEq, ih]
      exact and_congr_left' eq_comm

namespace Setting

/-- A setting is for a place, or for a part of what stands there. -/
def Touches (place : List String) (x : Setting) : Bool := (x.path.after? place).isSome

/-- A setting is for a part of what stands at a place. -/
def Within (place : List String) (x : Setting) : Prop :=
  ∃ step path, x.path.after? place = some (step :: path)

instance Within.decidable (place : List String) (x : Setting) : Decidable (x.Within place) :=
  match after : x.path.after? place with
  | some (step :: path) => isTrue ⟨step, path, after⟩
  | some [] => isFalse fun ⟨_, _, within⟩ => by simp [after] at within
  | none => isFalse fun ⟨_, _, within⟩ => by simp [after] at within

/-- The value that a setting gives to a place. An empty table gives none. -/
def value? (place : List String) (x : Setting) : Option Tree :=
  match x.path.after? place, x.value with
  | some [], .table [] => none
  | some [], value => some value
  | _, _ => none

/-- A value that is given replaces what stood there before. -/
theorem change_of_value? {value : Tree} (flat : x.path.after? place = some [] → x.Flat)
    (gives : x.value? place = some value) (cell : Option Tree) : x.change place cell = some value := by
  obtain ⟨path, tree⟩ := x
  cases after : Path.after? place path with
  | none => simp [value?, after] at gives
  | some rest =>
    cases rest with
    | cons => simp [value?, after] at gives
    | nil =>
      cases tree with
      | table entries =>
        obtain rfl : entries = [] := flat after entries rfl
        simp [value?, after] at gives
      | _ =>
        simp only [value?, after, Option.some.injEq] at gives
        rw [change, after, ← gives]
        rfl

/-- A setting that gives no value to a place, and none to a part of it, may at most leave an empty
table there. -/
theorem change_of_value?_eq_none (gives : x.value? place = none) (whole : ¬ x.Within place)
    (cell : Option Tree) :
    x.change place cell = cell ∨ x.change place cell = some (cell.getD (.table [])) := by
  obtain ⟨path, tree⟩ := x
  cases after : Path.after? place path with
  | none => exact .inl (by rw [change, after])
  | some rest =>
    cases rest with
    | cons step rest => exact absurd ⟨step, rest, after⟩ whole
    | nil =>
      obtain rfl : tree = .table [] := by
        by_contra other
        simp [value?, after] at gives
      exact .inr (by rw [change, after]; rfl)

theorem value?_text (place keys : List String) (text : String) :
    value? place ⟨keys.map .name, .text text⟩ =
      if place = keys.map foldName then some (.text text) else none := by
  by_cases same : place = keys.map foldName
  · rw [if_pos same, value?, Path.after?_names.2 same]
  · rw [if_neg same, value?]
    split
    · rfl
    · next after _ => exact absurd (Path.after?_names.1 after) same
    · rfl

theorem change_of_not_touches (apart : ¬ x.Touches place) (cell : Option Tree) :
    x.change place cell = cell := by
  rw [Touches, Option.not_isSome_iff_eq_none] at apart
  rw [change, apart]

end Setting

/-- The value that settings give to a place: the last one that gives any decides. -/
def set? (place : List String) (xs : List Setting) : Option Tree :=
  xs.reverse.findSome? (Setting.value? place)

theorem set?_append (place : List String) (xs ys : List Setting) :
    set? place (xs ++ ys) = (set? place ys).or (set? place xs) := by
  rw [set?, List.reverse_append, List.findSome?_append]
  rfl

theorem set?_singleton (place : List String) (x : Setting) : set? place [x] = x.value? place := by
  simp [set?]

theorem given?_append (place : List String) (xs ys : List Setting) :
    given? place (xs ++ ys) = ys.foldl (Setting.change place) (given? place xs) :=
  List.foldl_append

/-- Settings that are for other places do not count. -/
theorem given?_filter (place : List String) (xs : List Setting) :
    given? place (xs.filter (Setting.Touches place)) = given? place xs := by
  induction xs using List.reverseRecOn with
  | nil => rfl
  | append_singleton xs x ih =>
    rw [List.filter_append, given?_append, given?_append, ih]
    by_cases touches : x.Touches place
    · rw [List.filter_singleton, touches]; rfl
    · rw [List.filter_singleton, Bool.eq_false_iff.2 touches]
      exact (Setting.change_of_not_touches touches _).symm

/-- A value that is given, and that no later setting touches, replaces all there was before. -/
theorem given?_of_last {before after : List Setting} {value : Tree}
    (flat : x.path.after? place = some [] → x.Flat) (gives : x.value? place = some value)
    (untouched : ∀ y ∈ after, ¬ y.Touches place) :
    given? place (before ++ x :: after) = some value := by
  rw [given?_append, List.foldl_cons, Setting.change_of_value? flat gives]
  induction after with
  | nil => rfl
  | cons y after ih =>
    obtain ⟨first, rest⟩ := List.forall_mem_cons.1 untouched
    rw [List.foldl_cons, Setting.change_of_not_touches first, ih rest]

/-- A value of which no part is set comes from the last setting that gives one, if it is not an empty
table. -/
theorem given?_eq_set? (flat : ∀ x ∈ xs, x.path.after? place = some [] → x.Flat)
    (whole : ∀ x ∈ xs, ¬ x.Within place) :
    given? place xs = set? place xs ∨ given? place xs = some (.table []) := by
  induction xs using List.reverseRecOn with
  | nil => exact .inl rfl
  | append_singleton xs x ih =>
    obtain ⟨flat, flat_last⟩ := List.forall_mem_append.1 flat
    obtain ⟨whole, whole_last⟩ := List.forall_mem_append.1 whole
    have step : given? place (xs ++ [x]) = x.change place (given? place xs) := by
      rw [given?_append]; rfl
    rw [set?_append, set?_singleton, step]
    cases gives : x.value? place with
    | some value => exact .inl (Setting.change_of_value? (flat_last x (by simp)) gives _)
    | none =>
      rw [Option.none_or]
      rcases Setting.change_of_value?_eq_none gives (whole_last x (by simp)) (given? place xs) with
        same | opened
      · rw [same]
        exact ih flat whole
      · rw [opened]
        -- the empty table counts only where no earlier setting gives a value
        rcases ih flat whole with same | same
        · cases before : set? place xs with
          | none => rw [same, before]; exact .inr rfl
          | some value => rw [same, before]; exact .inl rfl
        · rw [same]; exact .inr rfl

/-! ### Fields of loaded settings -/

namespace Sources

variable {src : Sources}

/-- Nothing but tables is put in front of a place. -/
def Opens (src : Sources) (place : List String) : Prop :=
  ∀ x ∈ src.settings, ¬ Closes place x.path x.value

instance Opens.decidable (src : Sources) (place : List String) : Decidable (src.Opens place) :=
  inferInstanceAs (Decidable (∀ x ∈ src.settings, ¬ Closes place x.path x.value))

/-- The value at a place in the strongest source that gives one. -/
def value? (src : Sources) (place : List String) : Option Tree :=
  (if place = ["database", "url"] then src.databaseUrl.map Tree.text else none).or <|
    (set? place (variableTable src.vars).settings).or <|
      (src.overlay.bind fun overlay => set? place overlay.settings).or <|
        set? place src.base.settings

theorem set?_urlSettings (src : Sources) (place : List String) : set? place src.urlSettings =
    if place = ["database", "url"] then src.databaseUrl.map Tree.text else none := by
  have spelled : Path.ofName "database.url" = ["database", "url"].map .name := by decide
  have folded : ["database", "url"].map foldName = ["database", "url"] := by decide
  rw [urlSettings, spelled]
  cases src.databaseUrl with
  | none => exact (ite_self none).symm
  | some url =>
    have gives := Setting.value?_text place ["database", "url"] url
    rw [folded] at gives
    rw [Option.toList_some, List.map_singleton, set?_singleton, gives]
    rfl

theorem set?_settings (src : Sources) (place : List String) :
    set? place src.settings = src.value? place := by
  rw [settings, set?_append, set?_append, set?_append, set?_urlSettings, value?]
  cases src.overlay <;> rfl

/-- Top-level fields have nothing in front of them. -/
theorem opens_singleton (src : Sources) (name : String) : src.Opens [name] := by
  intro x mem closes
  obtain ⟨⟨key, path, spelled⟩, -⟩ := mem_settings mem
  rw [spelled] at closes
  exact closes.2

variable {s : Settings} {f : Field}

/-- A field is what the settings of all sources make of its place. -/
theorem read_given? (held : ofTable? src.layered = some s) (mem : f ∈ fields)
    (opens : src.Opens f.place) : f.read (given? f.place src.settings) = some (f.get s) := by
  have room : ∀ x ∈ src.settings, x.path ≠ [] ∧ ¬ Closes f.place x.path x.value := by
    intro x mem
    obtain ⟨⟨key, path, spelled⟩, -⟩ := mem_settings mem
    exact ⟨by simp [spelled], opens x mem⟩
  have branches : Tree.Branches f.place (.table src.layered) := by
    rw [table_layered]
    exact Tree.branches_foldl room (Tree.branches_table_nil _)
  rw [← read_of_ofTable? held mem branches, table_layered,
    Tree.at?_foldl (place_ne_nil mem) room, Tree.at?_table_nil (place_ne_nil mem)]
  rfl

/-- A field of which no part is set is understood from the strongest source that gives it. -/
theorem read_value? (held : ofTable? src.layered = some s) (mem : f ∈ fields)
    (opens : src.Opens f.place) (whole : ∀ x ∈ src.settings, ¬ x.Within f.place) :
    f.read (src.value? f.place) = some (f.get s) := by
  have read := read_given? held mem opens
  rcases given?_eq_set? (fun x mem => (mem_settings mem).2 f.place) whole with same | opened
  · rw [← set?_settings, ← same, read]
  · -- then loading would have failed
    rw [opened] at read
    exact absurd ((convert_table_nil mem).symm.trans read) (by simp)

/-- What settings have to do with their sources. -/
structure Gives (src : Sources) (s : Settings) : Prop where
  valid : s.validate = .ok ()
  /-- A field of which no part is set on its own has its value from the strongest source that gives
  one, or else its default. -/
  strongest : ∀ f ∈ fields, src.Opens f.place → (∀ x ∈ src.settings, ¬ x.Within f.place) →
    f.read (src.value? f.place) = some (f.get s)
  /-- A part that is set on its own is put into the value so far. -/
  made : ∀ f ∈ fields, src.Opens f.place → f.read (given? f.place src.settings) = some (f.get s)
  /-- Of a value that is given as a whole and not touched later, nothing older is left. -/
  replaced : ∀ f ∈ fields, src.Opens f.place → ∀ before x after value,
    src.settings = before ++ x :: after → x.value? f.place = some value →
      (∀ y ∈ after, ¬ y.Touches f.place) → f.convert value = some (f.get s)
  /-- Sources that differ in settings for other fields alone give the same value. -/
  sibling : ∀ f ∈ fields, src.Opens f.place → ∀ (src' : Sources) (s' : Settings),
    ofTable? src'.layered = some s' → src'.Opens f.place →
      src'.settings.filter (Setting.Touches f.place) = src.settings.filter (Setting.Touches f.place) →
        f.get s' = f.get s

theorem gives_of_ofTable? (held : ofTable? src.layered = some s) (valid : s.validate = .ok ()) :
    src.Gives s where
  valid := valid
  strongest _ mem opens whole := read_value? held mem opens whole
  made _ mem opens := read_given? held mem opens
  replaced f mem opens before x after value split gives untouched := by
    have given : x ∈ src.settings := by simp [split]
    have flat := (mem_settings given).2 f.place
    rw [← read_given? held mem opens, split, given?_of_last flat gives untouched]
    rfl
  sibling f mem opens src' s' held' opens' same := by
    have read := read_given? held mem opens
    have read' := read_given? held' mem opens'
    rw [← given?_filter] at read read'
    rw [same, read] at read'
    exact (Option.some.inj read').symm

end Sources

/-- Loaded settings come from their sources field by field. -/
theorem load_precedence {p : Surroundings} {directory environment : String} {loaded : Loaded}
    (loads : p.Loads directory environment (.ok loaded)) :
    ∃ src, p.sources? directory environment = some src ∧ src.Gives loaded.settings := by
  obtain ⟨⟨src, read, held⟩, valid, -, -⟩ :=
    Surroundings.outcome_eq_ok_iff.1 (Surroundings.loads_iff.1 loads)
  exact ⟨src, read, Sources.gives_of_ofTable? held valid⟩

/-- A base file, an overlay and a variable that all tell how many tasks are claimed at once. -/
def threeSizes : Surroundings where
  file? path :=
    if path = "config/task-queue.yaml" then some "worker: {batch_size: 20, poll_interval_ms: 10}"
    else if path = "config/task-queue.test.yaml" then some "worker: {batch_size: 2}"
    else none
  vars := [("TASK_QUEUE__WORKER__BATCH_SIZE", "3")]

/-- The variable is the strongest of them, and leaves the other value of the base file. -/
theorem load_precedence_of_threeSizes : ∃ src s,
    threeSizes.sources? "config" "test" = some src ∧
      threeSizes.Loads "config" "test" (.ok ⟨s, "test", "config"⟩) ∧ src.Gives s ∧
      src.Opens ["worker", "batch_size"] ∧
      (∀ x ∈ src.settings, ¬ x.Within ["worker", "batch_size"]) ∧
      (src.value? ["worker", "batch_size"]).bind Tree.toNat32? = some 3 ∧
      s.worker.batchSize = 3 ∧ s.worker.pollIntervalMs = 10 := by
  have loads : threeSizes.Loads "config" "test"
      (.ok ⟨{ worker := { batchSize := 3, pollIntervalMs := 10 } }, "test", "config"⟩) :=
    Surroundings.loads_iff.2 (by decide +kernel)
  have places : ∀ src ∈ threeSizes.sources? "config" "test", src.Opens ["worker", "batch_size"] ∧
      (∀ x ∈ src.settings, ¬ x.Within ["worker", "batch_size"]) ∧
      (src.value? ["worker", "batch_size"]).bind Tree.toNat32? = some 3 := by
    decide +kernel
  obtain ⟨src, read, gives⟩ := load_precedence loads
  obtain ⟨opens, whole, value⟩ := places src read
  exact ⟨src, _, read, loads, gives, opens, whole, value, rfl, rfl⟩

/-- An entry of the list in the base file, of which a variable sets the name. -/
def renamedType : Surroundings where
  file? path :=
    if path = "config/task-queue.yaml" then
      some "task_types: [{name: REPORT, max_attempts: 3, retry_backoff_seconds: 60}]"
    else none
  vars := [("TASK_QUEUE__TASK_TYPES[0]__NAME", "CALL")]

/-- The list is then not the one of the base file, the only source that gives it. -/
theorem renamedType_differs : ∃ src s,
    renamedType.sources? "config" "test" = some src ∧
      renamedType.Loads "config" "test" (.ok ⟨s, "test", "config"⟩) ∧
      src.Opens taskTypesField.place ∧
      taskTypesField.read (src.value? taskTypesField.place) = some [⟨"REPORT", 3, 60, none⟩] ∧
      taskTypesField.get s = [⟨"CALL", 3, 60, none⟩] := by
  have outcome : renamedType.outcome "config" "test" =
      .ok ⟨{ taskTypes := [⟨"CALL", 3, 60, none⟩] }, "test", "config"⟩ := by
    decide +kernel
  have given : ∀ src ∈ renamedType.sources? "config" "test",
      (src.value? ["task_types"]).bind (Tree.toList? taskTypeOf?) =
        some [⟨"REPORT", 3, 60, none⟩] := by
    decide +kernel
  obtain ⟨⟨src, read, -⟩, -⟩ := Surroundings.outcome_eq_ok_iff.1 outcome
  obtain ⟨tree, value, converted⟩ := Option.bind_eq_some_iff.1 (given src read)
  have there : src.value? taskTypesField.place = some tree := value
  refine ⟨src, _, read, Surroundings.loads_iff.2 outcome, src.opens_singleton "task_types", ?_, rfl⟩
  rw [there]
  exact converted

end WorkQueue.Settings
