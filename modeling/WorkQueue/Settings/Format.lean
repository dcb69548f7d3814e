import WorkQueue.Json.Reader
import WorkQueue.Settings.Format.Ini
import WorkQueue.Settings.Format.Json5
import WorkQueue.Settings.Format.Ron
import WorkQueue.Settings.Format.Toml
import WorkQueue.Yaml.Reader

/-!
# Formats of files

The formats in which files hold settings. The extension of a file's name tells its format.

## Main definitions

* `Settings.Format`: the formats
* `Settings.Format.ofPath?`: the format of the file at a path
* `Settings.Format.read?`: the table that a text holds
-/

namespace WorkQueue.Settings

mutual

/-- The tree of a JSON value. An integer beyond 64 bits with a sign is a floating-point number, and
the last of several members with one key counts. -/
def Tree.ofJson : Json → Tree
  | .null => .null
  | .bool b => .bool b
  | .number (.integer n) => if n ≤ IntRange.int64.hi then .integer n else .binary (.ofInt n)
  | .number (.binary x) => .binary x
  | .text s => .text s
  | .array items => .list (Tree.ofJsonItems items)
  | .object members => .table (Tree.ofJsonMembers [] members)

/-- The trees of the items of an array. -/
def Tree.ofJsonItems : List Json → List Tree
  | [] => []
  | item :: rest => Tree.ofJson item :: Tree.ofJsonItems rest

/-- The members of an object, added to the ones before. -/
def Tree.ofJsonMembers (before : Table) : List (String × Json) → Table
  | [] => before
  | (key, value) :: rest => Tree.ofJsonMembers (before.replace key (Tree.ofJson value)) rest

end

/-- The format of a file. -/
inductive Format where
  | yaml
  | json
  | toml
  | ini
  | ron
  | json5
  deriving DecidableEq, Inhabited, Repr

namespace Format

/-- All formats. -/
def all : List Format := [yaml, json, toml, ini, ron, json5]

/-- The extensions of names of files in a format. -/
def extensions : Format → List String
  | yaml => ["yaml", "yml"]
  | json => ["json"]
  | toml => ["toml"]
  | ini => ["ini"]
  | ron => ["ron"]
  | json5 => ["json5"]

/-- The extension of the last name of a path; a dot in front of a name starts no extension. -/
def extension? (path : String) : Option String :=
  let name := path.toList.reverse.takeWhile (· ≠ '/')
  let extension := name.takeWhile (· ≠ '.')
  if name.length ≤ extension.length + 1 then none else some (String.ofList extension.reverse)

/-- The format of the file at a path. -/
def ofPath? (path : String) : Option Format :=
  (extension? path).bind fun e => all.find? fun f => f.extensions.contains e

/-- A byte order mark at the start of a text does not count. -/
def dropMark (text : String) : String :=
  match text.toList with
  | '\ufeff' :: cs => String.ofList cs
  | _ => text

/-- The value of a text. -/
def value? (text : String) : Format → Option Tree
  | yaml => (Yaml.read? text).bind Tree.ofYaml?
  | json => (Json.read? text).map Tree.ofJson
  | toml => (Toml.read? text).map .table
  | ini => (Ini.read? text).map .table
  | ron => Ron.read? text
  | json5 => Json5.read? text

/-- The table that a text holds. -/
def read? (f : Format) (text : String) : Option Table :=
  match f.value? (dropMark text) with
  | some (.table entries) => some entries
  | _ => none

end Format

end WorkQueue.Settings
