import WorkQueue.Settings.Tree

/-!
# Sources of settings

Settings come from a base file, an overlay file, variables, and the address of the database, each of
which takes precedence over the ones before it.

## Main definitions

* `Settings.variableTable`: the table of the variables that name settings
* `Settings.layered`: the sources put together
-/

namespace WorkQueue.Settings

/-! ### Variables -/

/-- The value that the text of a variable looks like: a truth value in any case, an integer, a
number, or else the text itself. -/
def guess (text : String) : Tree :=
  let lower := text.toLower
  if lower = "true" then .bool true
  else if lower = "false" then .bool false
  else
    match Text.word? 10 text.toList with
    | some n => .integer n
    | none =>
      match Binary64.ofText? text with
      | some x => .binary x
      | none => .text text

/-- How the names of variables that hold settings begin, in lower case. -/
def variablePrefix : List Char := "task_queue__".toList

/-- A name with double underscores made dots, from the left. -/
def dotted : List Char → List Char
  | '_' :: '_' :: cs => '.' :: dotted cs
  | c :: cs => c :: dotted cs
  | [] => []

/-- The dotted name of the setting that a variable holds. -/
def settingName? (name : String) : Option String :=
  let cs := (foldName name).toList
  if variablePrefix.isPrefixOf cs then
    some (String.ofList (dotted (cs.drop variablePrefix.length)))
  else none

/-- The table of the variables that hold settings. -/
def variableTable (vars : List (String × String)) : Table :=
  vars.filterMap fun (name, text) => (settingName? name).map fun setting =>
    (setting, guess text)

/-! ### Layers -/

/-- The sources put together. The address of the database is a text, whatever it looks like. -/
def layered (base : Table) (overlay : Option Table) (vars : List (String × String))
    (databaseUrl : Option String) : Table :=
  let files := (Table.putAll [] base).putAll (overlay.getD [])
  let named := files.putAll (variableTable vars)
  match databaseUrl with
  | none => named
  | some url => named.putNamed "database.url" (.text url)

end WorkQueue.Settings
