import WorkQueue.Settings.Path
import WorkQueue.Yaml

/-!
# Trees of settings

Settings from several sources are put into one tree before they are understood. Names in tables are
kept in lower case, so that a later source can name an entry in any case. A table is merged into the
table that is already there, entry by entry, and any other value takes the place of what was there.

## Main definitions

* `Settings.Tree`: the tree; `Settings.Table`: the entries of a table
* `Settings.Table.put`: one entry set, with tables merged
* `Settings.Tree.putAt`: a value set at the end of a path
* `Settings.Table.putAll`: all entries of a source set
* `Settings.Tree.ofYaml?`: the tree of a YAML value
-/

namespace WorkQueue.Settings

/-- A value of a source. -/
inductive Tree where
  | null
  | bool (b : Bool)
  /-- A signed integer of 64 bits. -/
  | integer (n : Int)
  | binary (x : Binary64)
  | text (s : String)
  | list (items : List Tree)
  | table (entries : List (String × Tree))
  deriving Inhabited

/-- The entries of a table, with one value for each name. -/
abbrev Table := List (String × Tree)

/-- A character of a name in lower case. Of the characters beyond ASCII only the Kelvin sign has a
lower case that names of settings contain. -/
def foldChar (c : Char) : Char := if c = '\u212a' then 'k' else c.toLower

/-- A name in lower case. -/
def foldName (name : String) : String := String.ofList (name.toList.map foldChar)

namespace Table

/-- The value of a name. -/
def find? (name : String) (t : Table) : Option Tree :=
  (List.find? (fun entry => entry.1 = name) t).map (·.2)

/-- Gives a name a value, in the place of its value so far. -/
def replace (name : String) (value : Tree) : Table → Table
  | [] => [(name, value)]
  | (n, v) :: rest => if n = name then (name, value) :: rest else (n, v) :: replace name value rest

end Table

/-- The entries of a tree, none unless it is a table. -/
def Tree.entries : Tree → Table
  | .table entries => entries
  | _ => []

mutual

/-- Sets an entry of a table; a table is merged into the value so far. -/
def Table.put (t : Table) (name : String) : Tree → Table
  | .table incoming =>
    t.replace (foldName name) (((t.find? (foldName name)).getD (.table [])).merge incoming)
  | .null => t.replace (foldName name) .null
  | .bool b => t.replace (foldName name) (.bool b)
  | .integer n => t.replace (foldName name) (.integer n)
  | .binary x => t.replace (foldName name) (.binary x)
  | .text s => t.replace (foldName name) (.text s)
  | .list items => t.replace (foldName name) (.list items)

/-- Sets entries of a tree, which becomes a table if there are any. -/
def Tree.merge (tree : Tree) : List (String × Tree) → Tree
  | [] => tree
  | (name, value) :: rest => (Tree.table (Table.put tree.entries name value)).merge rest

end

namespace Tree

/-- The items of a tree, none unless it is a list. -/
def items : Tree → List Tree
  | list items => items
  | _ => []

/-- The place that a position stands for in a list of the given length. -/
def placeOf (length : Nat) (position : Int) : Nat :=
  if position < 0 then (length + position).toNat else position.toNat

/-- Gives a place in a list a value; places that the list does not have yet are filled with
null. -/
def setItem (items : List Tree) (place : Nat) (value : Tree) : List Tree :=
  (items ++ List.replicate (place + 1 - items.length) null).set place value

/-- Sets the value at the end of a path. What stands in the way becomes a table or a list, and only
in a table is a table merged into the value so far. -/
def putAt (value : Tree) : Path → Tree → Tree
  | [], _ => value
  | [.name name], tree => table (tree.entries.put name value)
  | .name name :: rest, tree =>
    let inner := (tree.entries.find? (foldName name)).getD null
    table (tree.entries.replace (foldName name) (putAt value rest inner))
  | .item position :: rest, tree =>
    let place := placeOf tree.items.length position
    list (setItem tree.items place (putAt value rest (tree.items.getD place null)))

end Tree

namespace Table

/-- Sets an entry whose name may be a path. -/
def putNamed (t : Table) (name : String) (value : Tree) : Table :=
  (Tree.putAt value (Path.ofName name) (.table t)).entries

/-- Sets all entries of a source. -/
def putAll (t source : Table) : Table :=
  source.foldl (fun t entry => t.putNamed entry.1 entry.2) t

end Table

/-! ### YAML values as trees -/

mutual

/-- The tree of a YAML value. A number without a value has no tree. A key that is an integer is a
name in digits, and entries with other keys than texts and integers are left out. -/
def Tree.ofYaml? : Yaml → Option Tree
  | .null => some .null
  | .bool b => some (.bool b)
  | .integer n => some (.integer n)
  | .real spelling => (Binary64.ofText? spelling).map .binary
  | .text s => some (.text s)
  | .sequence items => (Tree.ofItems? items).map .list
  | .mapping entries => (Tree.ofEntries? [] entries).map .table

/-- The trees of the items of a sequence. -/
def Tree.ofItems? : List Yaml → Option (List Tree)
  | [] => some []
  | item :: rest => do
    let tree ← Tree.ofYaml? item
    let trees ← Tree.ofItems? rest
    some (tree :: trees)

/-- The entries of a mapping, added to the ones before. -/
def Tree.ofEntries? (before : Table) : List (Yaml × Yaml) → Option Table
  | [] => some before
  | (key, value) :: rest => do
    let tree ← Tree.ofYaml? value
    let next := match key with
      | .text name => before.replace name tree
      | .integer n => before.replace (toString n) tree
      | _ => before
    Tree.ofEntries? next rest

end

end WorkQueue.Settings
