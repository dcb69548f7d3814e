import Mathlib.Data.Option.Basic
import WorkQueue.Settings.Sources

/-!
# Layers of settings

A source is opened into single settings, each with a path and a value, and the tree of all sources is
what these settings make one after the other. What stands at a place of that tree is then followed
without the rest of the tree: a setting that leads to the place, or behind it, changes it, and no
other does, as long as nothing but tables is put in front of the place.

## Main definitions

* `Settings.Setting`: a value to be set at the end of a path
* `Settings.Table.settings`: the settings of a source, with its tables opened
* `Settings.Tree.at?`: the value at a place
* `Settings.Path.after?`: the rest of a path behind a place
* `Settings.Setting.Closes`: a setting puts something other than a table in front of a place
* `Settings.given?`: what settings make of a place

## Main statements

* `Settings.Table.putAll_eq`: a source sets its settings one after the other
* `Settings.Tree.at?_foldl`: what stands at a place
* `Settings.Tree.branches_foldl`: in front of the place stand tables
-/

namespace WorkQueue.Settings

variable {name other : String} {value : Tree} {t : Table}

/-! ### Tables -/

namespace Table

@[simp] theorem find?_cons_self : find? name ((name, value) :: t) = some value := by simp [find?]

theorem find?_cons_of_ne (ne : other ≠ name) :
    find? name ((other, value) :: t) = find? name t := by simp [find?, ne]

@[simp] theorem find?_replace_self (t : Table) (value : Tree) :
    find? name (t.replace name value) = some value := by
  induction t with
  | nil => exact find?_cons_self
  | cons entry t ih =>
    obtain ⟨n, v⟩ := entry
    rw [replace]
    split
    · exact find?_cons_self
    · next ne => rw [find?_cons_of_ne ne, ih]

theorem find?_replace_of_ne (ne : other ≠ name) (t : Table) (value : Tree) :
    find? name (t.replace other value) = find? name t := by
  induction t with
  | nil => exact find?_cons_of_ne ne
  | cons entry t ih =>
    obtain ⟨n, v⟩ := entry
    rw [replace]
    split
    · next same => rw [same, find?_cons_of_ne ne, find?_cons_of_ne ne]
    · by_cases here : n = name
      · subst here; rw [find?_cons_self, find?_cons_self]
      · rw [find?_cons_of_ne here, find?_cons_of_ne here, ih]

@[simp] theorem replace_replace (t : Table) (v w : Tree) :
    (t.replace name v).replace name w = t.replace name w := by
  induction t with
  | nil => simp [replace]
  | cons entry t ih =>
    obtain ⟨n, u⟩ := entry
    by_cases here : n = name <;> simp [replace, here, ih]

end Table

/-- The value that a name gets: a table is merged into the value so far. -/
def Tree.over (cell : Option Tree) : Tree → Tree
  | .table incoming => (cell.getD (.table [])).merge incoming
  | value => value

theorem Table.put_eq (t : Table) (name : String) (value : Tree) :
    t.put name value = t.replace (foldName name) (Tree.over (t.find? (foldName name)) value) := by
  cases value <;> rfl

@[simp] theorem Tree.over_table_nil (cell : Option Tree) :
    Tree.over cell (.table []) = cell.getD (.table []) := rfl

/-! ### Single settings -/

/-- A value to be set at the end of a path. -/
structure Setting where
  path : Path
  value : Tree

/-- Sets the value at the end of the path. -/
def Setting.put (tree : Tree) (x : Setting) : Tree := Tree.putAt x.value x.path tree

/-- A step leads to an entry of a table. -/
def Step.isName : Step → Bool
  | .name _ => true
  | .item _ => false

mutual

/-- The settings of a value at the end of a path, with tables opened. -/
def Tree.settings (path : Path) : Tree → List Setting
  | .table entries => Tree.entrySettings path entries
  | value => [⟨path, value⟩]

/-- The settings of the entries of a table. The last one is the empty table, which is set for the
case that there is no entry. -/
def Tree.entrySettings (path : Path) : List (String × Tree) → List Setting
  | [] => [⟨path, .table []⟩]
  | (name, value) :: rest =>
    Tree.settings (path ++ [.name name]) value ++ Tree.entrySettings path rest

end

/-- The settings of an entry of a source. A table is not opened if it becomes an item of a list, since
it then takes the place of the item. -/
def Table.settingsOf (name : String) (value : Tree) : List Setting :=
  let path := Path.ofName name
  if path.all Step.isName then value.settings path else [⟨path, value⟩]

/-- The settings of a source. -/
def Table.settings (source : Table) : List Setting :=
  source.flatMap fun entry => Table.settingsOf entry.1 entry.2

namespace Tree

theorem putAt_name (value : Tree) (name : String) (tree : Tree) :
    putAt value [.name name] tree = table (tree.entries.put name value) := rfl

theorem putAt_name_cons (value : Tree) (name : String) (step : Step) (path : Path) (tree : Tree) :
    putAt value (.name name :: step :: path) tree =
      table (tree.entries.replace (foldName name)
        (putAt value (step :: path) ((tree.entries.find? (foldName name)).getD null))) := rfl

@[simp] theorem entries_table (entries : Table) : (table entries).entries = entries := rfl

/-- The first entry of a table may be set on its own before the rest of the table. -/
theorem putAt_table_cons {path : Path} (named : path.all Step.isName) (ne : path ≠ [])
    (name : String) (value : Tree) (rest : Table) (tree : Tree) :
    putAt (table ((name, value) :: rest)) path tree =
      putAt (table rest) path (putAt value (path ++ [.name name]) tree) := by
  induction path generalizing tree with
  | nil => exact absurd rfl ne
  | cons step path ih =>
    cases step with
    | item position => simp [Step.isName] at named
    | name key =>
      cases path with
      | nil =>
        -- both settings go through the table at `key`, which the first one makes if there is none
        have opened : ∀ cell : Option Tree, (cell.getD null).entries = (cell.getD (table [])).entries
          | none => rfl
          | some _ => rfl
        rw [List.singleton_append, putAt_name_cons, putAt_name, putAt_name, putAt_name,
          entries_table, Table.put_eq _ _ (table _), Table.put_eq _ _ (table _), Table.find?_replace_self,
          Table.replace_replace, opened]
        rfl
      | cons step path =>
        have tail : (step :: path).all Step.isName := by
          rw [List.all_cons, Bool.and_eq_true] at named
          exact named.2
        rw [List.cons_append, List.cons_append, putAt_name_cons, putAt_name_cons, putAt_name_cons,
          entries_table, Table.find?_replace_self, Table.replace_replace, Option.getD_some,
          ih tail (by simp), List.cons_append]

mutual

/-- A value is set by its settings, one after the other. -/
theorem putAt_eq_foldl {path : Path} (named : path.all Step.isName) (ne : path ≠ [])
    (value tree : Tree) : putAt value path tree = (value.settings path).foldl Setting.put tree := by
  match value with
  | .null => rfl
  | .bool _ => rfl
  | .integer _ => rfl
  | .binary _ => rfl
  | .text _ => rfl
  | .list _ => rfl
  | .table entries => exact putAt_table_eq_foldl named ne entries tree

theorem putAt_table_eq_foldl {path : Path} (named : path.all Step.isName) (ne : path ≠ [])
    (entries : List (String × Tree)) (tree : Tree) :
    putAt (table entries) path tree = (entrySettings path entries).foldl Setting.put tree := by
  match entries with
  | [] => rfl
  | (name, value) :: rest =>
    have longer : (path ++ [Step.name name]).all Step.isName := by
      rw [List.all_append, named]; rfl
    rw [putAt_table_cons named ne, entrySettings, List.foldl_append,
      ← putAt_eq_foldl longer (by simp) value tree]
    exact putAt_table_eq_foldl named ne rest _

end

end Tree

/-! ### Sources as settings -/

theorem Path.exists_ofName (name : String) :
    ∃ key path, Path.ofName name = .name key :: path := by
  rw [ofName]
  cases spelled : Path.ofText? name with
  | none => exact ⟨name, [], rfl⟩
  | some path =>
    obtain ⟨⟨step, rest⟩, taken, spelled⟩ := Option.bind_eq_some_iff.1 spelled
    obtain ⟨steps, -, same⟩ := Option.bind_eq_some_iff.1 spelled
    cases same
    simp only [takeName?, Option.ite_none_left_eq_some, Option.some.injEq, Prod.mk.injEq] at taken
    obtain ⟨-, rfl, -⟩ := taken
    exact ⟨_, steps, rfl⟩

theorem Path.ofName_ne_nil (name : String) : Path.ofName name ≠ [] := by
  obtain ⟨key, path, spelled⟩ := Path.exists_ofName name
  simp [spelled]

namespace Tree

theorem exists_putAt_name (value : Tree) (key : String) (path : Path) (tree : Tree) :
    ∃ entries, putAt value (.name key :: path) tree = table entries := by
  cases path with
  | nil => exact ⟨_, rfl⟩
  | cons step path => exact ⟨_, rfl⟩

end Tree

namespace Table

theorem table_putNamed (t : Table) (name : String) (value : Tree) :
    .table (t.putNamed name value) = Tree.putAt value (Path.ofName name) (.table t) := by
  obtain ⟨key, path, spelled⟩ := Path.exists_ofName name
  obtain ⟨entries, result⟩ := Tree.exists_putAt_name value key path (.table t)
  rw [putNamed, spelled, result, Tree.entries_table]

theorem putNamed_eq (t : Table) (name : String) (value : Tree) :
    .table (t.putNamed name value) = (settingsOf name value).foldl Setting.put (.table t) := by
  rw [table_putNamed, settingsOf]
  split
  · next named => exact Tree.putAt_eq_foldl named (Path.ofName_ne_nil name) value _
  · rfl

/-- A source sets its settings, one after the other. -/
theorem putAll_eq (t source : Table) :
    .table (t.putAll source) = source.settings.foldl Setting.put (.table t) := by
  induction source generalizing t with
  | nil => rfl
  | cons entry source ih =>
    rw [settings, List.flatMap_cons, List.foldl_append, ← putNamed_eq]
    exact ih _

end Table

/-! ### Places -/

/-- The value at a place, which names lead to through tables. -/
def Tree.at? : List String → Tree → Option Tree
  | [], tree => some tree
  | name :: place, tree => (tree.entries.find? name).bind (Tree.at? place)

/-- The rest of a path behind a place. -/
def Path.after? : List String → Path → Option Path
  | [], path => some path
  | name :: place, .name key :: path => if foldName key = name then Path.after? place path else none
  | _ :: _, _ => none

/-- A setting with the given path and value puts something other than a table in front of a place. -/
def Closes : List String → Path → Tree → Prop
  | [], _, _ => False
  | _ :: _, [], value => value ≠ .table []
  | name :: place, .name key :: path, value => foldName key = name ∧ Closes place path value
  | _ :: _, .item _ :: _, _ => True

instance Tree.decidableEqTableNil : ∀ value : Tree, Decidable (value = .table [])
  | .table [] => isTrue rfl
  | .table (_ :: _) => isFalse (by simp)
  | .null | .bool _ | .integer _ | .binary _ | .text _ | .list _ => isFalse (by simp)

instance Closes.decidable : ∀ place path value, Decidable (Closes place path value)
  | [], _, _ => isFalse id
  | _ :: _, [], value => inferInstanceAs (Decidable (value ≠ .table []))
  | name :: place, .name key :: path, value =>
    have := Closes.decidable place path value
    inferInstanceAs (Decidable (foldName key = name ∧ Closes place path value))
  | _ :: _, .item _ :: _, _ => isTrue trivial

/-- What a setting makes of the value at a place. -/
def Setting.change (place : List String) (cell : Option Tree) (x : Setting) : Option Tree :=
  match Path.after? place x.path with
  | none => cell
  | some [] => some (Tree.over cell x.value)
  | some (step :: path) => some (Tree.putAt x.value (step :: path) (cell.getD .null))

/-- What settings make of a place where nothing stands before. -/
def given? (place : List String) (xs : List Setting) : Option Tree :=
  xs.foldl (Setting.change place) none

namespace Setting

variable {place : List String} {path : Path} {key : String}

theorem change_name_self (cell : Option Tree) (value : Tree) :
    change (foldName key :: place) cell ⟨.name key :: path, value⟩ =
      change place cell ⟨path, value⟩ := by
  simp [change, Path.after?]

theorem change_name_of_ne (ne : foldName key ≠ name) (cell : Option Tree) (value : Tree) :
    change (name :: place) cell ⟨.name key :: path, value⟩ = cell := by
  simp [change, Path.after?, ne]

theorem change_at (cell : Option Tree) (value : Tree) :
    change [] cell ⟨[], value⟩ = some (Tree.over cell value) := rfl

theorem change_behind (step : Step) (path : Path) (cell : Option Tree) (value : Tree) :
    change [] cell ⟨step :: path, value⟩ =
      some (Tree.putAt value (step :: path) (cell.getD .null)) := rfl

theorem change_in_front (name : String) (place : List String) (cell : Option Tree) (value : Tree) :
    change (name :: place) cell ⟨[], value⟩ = cell := rfl

end Setting

namespace Tree

variable {place : List String} {path : Path} {tree : Tree} {key : String}

theorem at?_cons (name : String) (place : List String) (tree : Tree) :
    at? (name :: place) tree = (tree.entries.find? name).bind (at? place) := rfl

theorem at?_table_nil (ne : place ≠ []) : at? place (table []) = none := by
  cases place with
  | nil => exact absurd rfl ne
  | cons => rfl

theorem at?_singleton (name : String) (tree : Tree) :
    at? [name] tree = tree.entries.find? name := Option.bind_fun_some _

theorem at?_getD_null (name : String) (place : List String) (cell : Option Tree) :
    at? (name :: place) (cell.getD null) = cell.bind (at? (name :: place)) := by
  cases cell <;> rfl

theorem at?_getD_table (name : String) (place : List String) (cell : Option Tree) :
    at? (name :: place) (cell.getD (table [])) = cell.bind (at? (name :: place)) := by
  cases cell <;> rfl

theorem find?_putAt_self (value : Tree) (key : String) (path : Path) (tree : Tree) :
    (putAt value (.name key :: path) tree).entries.find? (foldName key) =
      Setting.change [] (tree.entries.find? (foldName key)) ⟨path, value⟩ := by
  cases path with
  | nil => rw [putAt_name, entries_table, Table.put_eq, Table.find?_replace_self]; rfl
  | cons => rw [putAt_name_cons, entries_table, Table.find?_replace_self]; rfl

theorem find?_putAt_of_ne (ne : foldName key ≠ name) (value : Tree) (path : Path) (tree : Tree) :
    (putAt value (.name key :: path) tree).entries.find? name = tree.entries.find? name := by
  cases path with
  | nil => rw [putAt_name, entries_table, Table.put_eq, Table.find?_replace_of_ne ne]
  | cons => rw [putAt_name_cons, entries_table, Table.find?_replace_of_ne ne]

/-- A setting changes a place as its path tells, unless it closes the way to the place. -/
theorem at?_putAt (place_ne : place ≠ []) (path_ne : path ≠ [])
    (opens : ¬ Closes place path value) (tree : Tree) :
    at? place (putAt value path tree) = Setting.change place (at? place tree) ⟨path, value⟩ := by
  induction path generalizing place tree with
  | nil => exact absurd rfl path_ne
  | cons step path ih =>
    obtain ⟨name, place, rfl⟩ := List.exists_cons_of_ne_nil place_ne
    cases step with
    | item position => exact absurd trivial opens
    | name key =>
      by_cases here : foldName key = name
      · subst here
        replace opens : ¬ Closes place path value := fun closes => opens ⟨rfl, closes⟩
        rw [Setting.change_name_self]
        -- the place ends here, or the path does with an empty table, or both go on
        match place, path with
        | [], path => rw [at?_singleton, at?_singleton, find?_putAt_self]
        | name :: place, [] =>
          obtain rfl : value = table [] := not_not.1 opens
          rw [at?_cons, at?_cons, find?_putAt_self, Setting.change_at, Option.bind_some,
            over_table_nil, at?_getD_table, Setting.change_in_front]
        | name :: place, step :: path =>
          rw [at?_cons, at?_cons, find?_putAt_self, Setting.change_behind, Option.bind_some,
            ih (by simp) (by simp) opens, at?_getD_null]
      · rw [Setting.change_name_of_ne here, at?_cons, at?_cons, find?_putAt_of_ne here]

/-- What stands at a place after settings that do not close the way to it. -/
theorem at?_foldl (place_ne : place ≠ []) {xs : List Setting}
    (opens : ∀ x ∈ xs, x.path ≠ [] ∧ ¬ Closes place x.path x.value) (tree : Tree) :
    at? place (xs.foldl Setting.put tree) = xs.foldl (Setting.change place) (at? place tree) := by
  induction xs generalizing tree with
  | nil => rfl
  | cons x xs ih =>
    obtain ⟨⟨path_ne, first⟩, rest⟩ := List.forall_mem_cons.1 opens
    rw [List.foldl_cons, List.foldl_cons, ih rest, Setting.put, at?_putAt place_ne path_ne first]

/-- In front of a place stand tables, as far as anything stands there. -/
def Branches : List String → Tree → Prop
  | [], _ => True
  | [_], _ => True
  | name :: next :: place, tree => ∀ inner, tree.entries.find? name = some inner →
    (∃ entries, inner = table entries) ∧ Branches (next :: place) inner

theorem branches_null (place : List String) : Branches place null := by
  match place with
  | [] | [_] => trivial
  | _ :: _ :: _ => exact fun _ found => by cases found

theorem branches_table_nil (place : List String) : Branches place (table []) := by
  match place with
  | [] | [_] => trivial
  | _ :: _ :: _ => exact fun _ found => by cases found

/-- A setting that does not close the way to a place leaves tables in front of it. -/
theorem branches_putAt (path_ne : path ≠ []) (opens : ¬ Closes place path value)
    (branches : Branches place tree) : Branches place (putAt value path tree) := by
  induction path generalizing place tree with
  | nil => exact absurd rfl path_ne
  | cons step path ih =>
    match place with
    | [] | [_] => trivial
    | name :: next :: place =>
      cases step with
      | item position => exact absurd trivial opens
      | name key =>
        intro inner found
        by_cases here : foldName key = name
        · subst here
          replace opens : ¬ Closes (next :: place) path value := fun closes => opens ⟨rfl, closes⟩
          rw [find?_putAt_self] at found
          match path with
          | [] =>
            -- an empty table that is merged leaves the table that stands there
            obtain rfl : value = table [] := not_not.1 opens
            obtain rfl := Option.some.inj found
            cases before : tree.entries.find? (foldName key) with
            | none => exact ⟨⟨[], rfl⟩, branches_table_nil _⟩
            | some value => exact branches value before
          | .item _ :: _ => exact absurd trivial opens
          | .name _ :: _ =>
            obtain rfl := Option.some.inj found
            refine ⟨exists_putAt_name .., ih (by simp) opens ?_⟩
            cases before : tree.entries.find? (foldName key) with
            | none => exact branches_null _
            | some value => exact (branches value before).2
        · rw [find?_putAt_of_ne here] at found
          exact branches inner found

/-- Settings that do not close the way to a place leave tables in front of it. -/
theorem branches_foldl {xs : List Setting}
    (opens : ∀ x ∈ xs, x.path ≠ [] ∧ ¬ Closes place x.path x.value) (branches : Branches place tree) :
    Branches place (xs.foldl Setting.put tree) := by
  induction xs generalizing tree with
  | nil => exact branches
  | cons x xs ih =>
    obtain ⟨⟨path_ne, first⟩, rest⟩ := List.forall_mem_cons.1 opens
    exact ih rest (branches_putAt path_ne first branches)

end Tree

end WorkQueue.Settings
