import WorkQueue.Proofs.Settings.Layers
import WorkQueue.Settings.Loader

/-!
# Loaded settings

Loading reads the sources, puts their settings together, and checks what they come to. What is
reported on the way has no influence on the outcome.

## Main definitions

* `Settings.Sources`: the sources of settings
* `Settings.Sources.settings`: the settings of all sources, the strongest source last
* `Settings.Surroundings.sources?`: the sources that are read for an environment
* `Settings.Surroundings.Loads`: loading returns a result
* `Settings.Surroundings.outcome`: what loading comes to

## Main statements

* `Settings.Sources.table_layered`: the sources put together, as settings one after the other
* `Settings.Surroundings.loads_iff`: loading returns its outcome
* `Settings.Surroundings.outcome_eq_ok_iff`: when settings are loaded
-/

namespace WorkQueue.Settings

/-! ### Sources -/

/-- A setting for a place tells its value: a table is opened already. -/
def Setting.Flat (x : Setting) : Prop := ∀ entries, x.value = .table entries → entries = []

namespace Tree

mutual

theorem mem_settings {path : Path} {value : Tree} {x : Setting} (mem : x ∈ value.settings path) :
    path <+: x.path ∧ x.Flat := by
  match value with
  | .null | .bool _ | .integer _ | .binary _ | .text _ | .list _ =>
    obtain rfl := List.mem_singleton.1 mem
    exact ⟨List.prefix_rfl, fun _ table => by cases table⟩
  | .table entries => exact mem_entrySettings mem

theorem mem_entrySettings {path : Path} {entries : List (String × Tree)} {x : Setting}
    (mem : x ∈ entrySettings path entries) : path <+: x.path ∧ x.Flat := by
  match entries with
  | [] =>
    obtain rfl := List.mem_singleton.1 mem
    exact ⟨List.prefix_rfl, fun _ table => (Tree.table.inj table).symm⟩
  | (name, value) :: rest =>
    rcases List.mem_append.1 mem with mem | mem
    · obtain ⟨longer, flat⟩ := mem_settings mem
      exact ⟨(List.prefix_append path _).trans longer, flat⟩
    · exact mem_entrySettings mem

end

end Tree

theorem Path.all_isName_of_after? {place : List String} {path : Path}
    (ends : path.after? place = some []) : path.all Step.isName := by
  induction place generalizing path with
  | nil => obtain rfl := Option.some.inj ends; rfl
  | cons name place ih =>
    match path with
    | [] | .item _ :: _ => cases ends
    | .name key :: path =>
      rw [Path.after?, Option.ite_none_right_eq_some] at ends
      rw [List.all_cons, ih ends.2]
      rfl

theorem Table.mem_settings {source : Table} {x : Setting} (mem : x ∈ source.settings) :
    (∃ key path, x.path = .name key :: path) ∧
      ∀ place, x.path.after? place = some [] → x.Flat := by
  obtain ⟨⟨name, value⟩, -, mem⟩ := List.mem_flatMap.1 mem
  obtain ⟨key, path, spelled⟩ := Path.exists_ofName name
  rw [settingsOf] at mem
  split at mem
  · obtain ⟨⟨rest, longer⟩, flat⟩ := Tree.mem_settings mem
    rw [spelled] at longer
    exact ⟨⟨key, path ++ rest, longer.symm⟩, fun _ _ => flat⟩
  · next unnamed =>
    obtain rfl := List.mem_singleton.1 mem
    exact ⟨⟨key, path, spelled⟩, fun _ ends => absurd (Path.all_isName_of_after? ends) unnamed⟩

/-- The sources of settings. -/
structure Sources where
  base : Table
  overlay : Option Table
  vars : List (String × String)
  databaseUrl : Option String

namespace Sources

variable {src : Sources}

/-- The sources put together. -/
def layered (src : Sources) : Table :=
  Settings.layered src.base src.overlay src.vars src.databaseUrl

/-- The setting that the address of the database is. -/
def urlSettings (src : Sources) : List Setting :=
  src.databaseUrl.toList.map fun url => ⟨Path.ofName "database.url", .text url⟩

/-- The settings of all sources, the strongest source last. -/
def settings (src : Sources) : List Setting :=
  src.base.settings ++ (src.overlay.getD []).settings ++ (variableTable src.vars).settings ++
    src.urlSettings

/-- The sources put together are their settings, one after the other. -/
theorem table_layered (src : Sources) :
    .table src.layered = src.settings.foldl Setting.put (.table []) := by
  rw [settings, List.foldl_append, List.foldl_append, List.foldl_append, ← Table.putAll_eq,
    ← Table.putAll_eq, ← Table.putAll_eq, urlSettings, layered, Settings.layered.eq_def]
  cases src.databaseUrl with
  | none => rfl
  | some url => exact Table.table_putNamed _ "database.url" (.text url)

theorem mem_settings {x : Setting} (mem : x ∈ src.settings) :
    (∃ key path, x.path = .name key :: path) ∧
      ∀ place, x.path.after? place = some [] → x.Flat := by
  simp only [settings, List.mem_append] at mem
  rcases mem with ((mem | mem) | mem) | mem
  · exact Table.mem_settings mem
  · exact Table.mem_settings mem
  · exact Table.mem_settings mem
  · obtain ⟨url, -, rfl⟩ := List.mem_map.1 mem
    exact ⟨Path.exists_ofName "database.url", fun _ _ _ table => by cases table⟩

end Sources

/-! ### Loading -/

namespace Surroundings

variable {p : Surroundings} {directory environment : String}

/-- The sources that are read for an environment. -/
def sources? (p : Surroundings) (directory environment : String) : Option Sources := do
  let base ← (p.file? (basePath directory)).bind Format.yaml.read?
  let overlay ← (p.overlay? (overlayPath directory environment)).mapM fun o => o.1.read? o.2
  return ⟨base, overlay, p.vars, p.lookup? "DATABASE_URL"⟩

theorem sources?_eq_some_iff {src : Sources} : p.sources? directory environment = some src ↔
    (p.file? (basePath directory)).bind Format.yaml.read? = some src.base ∧
      (p.overlay? (overlayPath directory environment)).mapM (fun o => o.1.read? o.2) =
        some src.overlay ∧
      src.vars = p.vars ∧ src.databaseUrl = p.lookup? "DATABASE_URL" := by
  simp only [sources?, Option.bind_eq_bind, Option.bind_eq_some_iff]
  constructor
  · rintro ⟨base, readBase, overlay, readOverlay, same⟩
    cases same
    exact ⟨readBase, readOverlay, rfl, rfl⟩
  · obtain ⟨base, overlay, vars, databaseUrl⟩ := src
    rintro ⟨readBase, readOverlay, rfl, rfl⟩
    exact ⟨base, readBase, overlay, readOverlay, rfl⟩

/-- Loading the settings of an environment reports something and returns a result, whatever the host
does with reports. -/
def Loads (p : Surroundings) (directory environment : String) (result : Except Error Loaded) :
    Prop :=
  ∀ (m : Type → Type) [Monad m] [LawfulMonad m] [Host m],
    ∃ reports : m Unit, load p directory environment = (do reports; return result)

/-- What loading the settings of an environment comes to. -/
def outcome (p : Surroundings) (directory environment : String) : Except Error Loaded :=
  match p.file? (basePath directory) with
  | none => .error (.fileNotFound (basePath directory))
  | some base =>
    (understand base (p.overlay? (overlayPath directory environment)) p.vars
      (p.lookup? "DATABASE_URL")).map fun settings => ⟨settings, environment, directory⟩

end Surroundings

section

variable {α β : Type}

theorem bind_eq_ok {x : Except Error α} {f : α → Except Error β} {b : β} :
    (x >>= f) = .ok b ↔ ∃ a, x = .ok a ∧ f a = .ok b := by
  cases x with
  | error => simp [bind, Except.bind]
  | ok a => simp [bind, Except.bind]

theorem readable_eq_ok {text : String} {a? : Option α} {a : α} :
    readable text a? = .ok a ↔ a? = some a := by
  cases a? <;> simp [readable]

theorem mapM_readable_eq_ok {text : String} {read : α → Option β} {a? : Option α} {b? : Option β} :
    a?.mapM (fun a => readable text (read a)) = .ok b? ↔ a?.mapM read = some b? := by
  cases a? with
  | none => simp [pure, Except.pure]
  | some a => cases result : read a <;> simp [result, readable, Functor.map, Except.map]

end

/-- Settings are understood if their sources are read, and what they come to is valid. -/
theorem understand_eq_ok_iff {base : String} {overlay : Option (Format × String)}
    {vars : List (String × String)} {databaseUrl : Option String} {s : Settings} :
    understand base overlay vars databaseUrl = .ok s ↔
      ∃ baseTable overlayTable, Format.yaml.read? base = some baseTable ∧
        overlay.mapM (fun o => o.1.read? o.2) = some overlayTable ∧
        ofTable? (layered baseTable overlayTable vars databaseUrl) = some s ∧
        s.validate = .ok () := by
  simp only [understand, bind_eq_ok, readable_eq_ok, mapM_readable_eq_ok]
  constructor
  · rintro ⟨b, readBase, o, readOverlay, s', held, _, valid, same⟩
    obtain rfl := Except.ok.inj same
    exact ⟨b, o, readBase, readOverlay, held, valid⟩
  · rintro ⟨b, o, readBase, readOverlay, held, valid⟩
    exact ⟨b, readBase, o, readOverlay, s, held, (), valid, rfl⟩

namespace Surroundings

variable {p : Surroundings} {directory environment : String}

theorem loads_outcome (p : Surroundings) (directory environment : String) :
    p.Loads directory environment (p.outcome directory environment) := by
  intro m _ _ _
  rw [load, outcome]
  cases p.file? (basePath directory) with
  | none => exact ⟨pure (), by rw [pure_bind]⟩
  | some base =>
    cases understood : understand base (p.overlay? (overlayPath directory environment)) p.vars
        (p.lookup? "DATABASE_URL") with
    | error e =>
      simp only [understood, Except.map]
      exact ⟨_, rfl⟩
    | ok settings =>
      simp only [understood, Except.map]
      exact ⟨_, (bind_assoc _ (fun _ => _) (fun _ => _)).symm⟩

/-- Loading returns its outcome, and nothing else. -/
theorem loads_iff {result : Except Error Loaded} :
    p.Loads directory environment result ↔ p.outcome directory environment = result := by
  constructor
  · intro loads
    let _ : Host Id := ⟨default, default, fun _ => ()⟩
    obtain ⟨_, returned⟩ := loads Id
    obtain ⟨_, returned'⟩ := loads_outcome p directory environment Id
    exact returned'.symm.trans returned
  · rintro rfl
    exact loads_outcome p directory environment

/-- Settings are loaded from sources that are read, if what these come to is valid. -/
theorem outcome_eq_ok_iff {loaded : Loaded} : p.outcome directory environment = .ok loaded ↔
      (∃ src, p.sources? directory environment = some src ∧
        ofTable? src.layered = some loaded.settings) ∧
        loaded.settings.validate = .ok () ∧ loaded.environment = environment ∧
        loaded.directory = directory := by
  obtain ⟨s, e, d⟩ := loaded
  constructor
  · intro loads
    cases file : p.file? (basePath directory) with
    | none => simp [outcome, file] at loads
    | some base =>
      simp only [outcome, file] at loads
      cases understood : understand base (p.overlay? (overlayPath directory environment)) p.vars
          (p.lookup? "DATABASE_URL") with
      | error e => simp [understood, Except.map] at loads
      | ok settings =>
        rw [understood] at loads
        cases loads
        obtain ⟨b, o, readBase, readOverlay, held, valid⟩ := understand_eq_ok_iff.1 understood
        refine ⟨⟨⟨b, o, p.vars, p.lookup? "DATABASE_URL"⟩, ?_, held⟩, valid, rfl, rfl⟩
        exact sources?_eq_some_iff.2 ⟨by rw [file]; exact readBase, readOverlay, rfl, rfl⟩
  · rintro ⟨⟨⟨b, o, vars, url⟩, read, held⟩, valid, rfl, rfl⟩
    obtain ⟨readBase, readOverlay, rfl, rfl⟩ := sources?_eq_some_iff.1 read
    obtain ⟨base, file, readBase⟩ := Option.bind_eq_some_iff.1 readBase
    simp only [outcome, file, understand_eq_ok_iff.2 ⟨b, o, readBase, readOverlay, held, valid⟩]
    rfl

end Surroundings

end WorkQueue.Settings
