import WorkQueue.Settings.Format.TomlScalar

/-!
# Reading TOML texts

A TOML text is a list of lines that open tables and set entries. An entry is set once, and a table
is opened once; entries with dotted names may only add to tables that such names have made. Up to 79
brackets and braces may stand inside each other, and a name may have as many parts.

## Main definitions

* `Settings.Toml.Item`: a table in the making
* `Settings.Toml.update`: a change to a table inside other ones
* `Settings.Toml.read?`: the table of a text
-/

namespace WorkQueue.Settings.Toml

/-! ### Tables in the making -/

/-- How a table has come about. -/
structure Origin where
  /-- Only names of other things lead through it. -/
  implicit : Bool := false
  /-- Those are the dotted names of entries. -/
  dotted : Bool := false
  deriving DecidableEq, Inhabited

/-- What a name stands for. -/
inductive Item where
  /-- A value, to which nothing can be added. -/
  | value (v : Tree)
  | table (origin : Origin) (entries : List (String × Item))
  /-- A list of tables that have been opened, the last one first. -/
  | tables (all : List (List (String × Item)))
  deriving Inhabited

/-- The entries of a table in the making. -/
abbrev Entries := List (String × Item)

def find? (name : String) (t : Entries) : Option Item :=
  (List.find? (fun entry => entry.1 = name) t).map (·.2)

/-- Gives a name an item, in the place of its item so far. -/
def replace (name : String) (item : Item) : Entries → Entries
  | [] => [(name, item)]
  | (n, i) :: rest => if n = name then (name, item) :: rest else (n, i) :: replace name item rest

/-- Changes the table that names lead to. Missing tables are made; of a list of tables the last one
counts. Dotted names do not lead into tables that have been opened. -/
def update (dotted : Bool) (change : Origin → Entries → Option Entries) :
    List String → Origin → Entries → Option Entries
  | [], origin, t => change origin t
  | name :: rest, _, t =>
    match find? name t with
    | none => do
      let origin : Origin := ⟨true, dotted⟩
      let inner ← update dotted change rest origin []
      some (replace name (.table origin inner) t)
    | some (.table origin inner) =>
      if dotted && !origin.implicit then none
      else do
        let inner ← update dotted change rest origin inner
        some (replace name (.table origin inner) t)
    | some (.tables (last :: before)) => do
      let inner ← update dotted change rest {} last
      some (replace name (.tables (inner :: before)) t)
    | some _ => none

/-- Sets an entry of a table. A dotted name has to end in a table that dotted names have made. -/
def setEntry (path : List String) (name : String) (v : Tree) (origin : Origin) (t : Entries) :
    Option Entries :=
  let add (origin : Origin) (t : Entries) : Option Entries :=
    if origin.dotted == path.isEmpty || (find? name t).isSome then none
    else some (t ++ [(name, .value v)])
  update true add path origin t

/-- Opens a table, which may have been made by the names of other tables before. -/
def openTable (path : List String) (name : String) (root : Entries) : Option Entries :=
  let start (_ : Origin) (t : Entries) : Option Entries :=
    match find? name t with
    | none => some (t ++ [(name, .table {} [])])
    | some (.table origin inner) =>
      if origin.implicit && !origin.dotted then some (replace name (.table {} inner) t) else none
    | some _ => none
  update false start path {} root

/-- Opens a further table of a list. -/
def openListed (path : List String) (name : String) (root : Entries) : Option Entries :=
  let start (_ : Origin) (t : Entries) : Option Entries :=
    match find? name t with
    | none => some (t ++ [(name, .tables [[]])])
    | some (.tables all) => some (replace name (.tables ([] :: all)) t)
    | some _ => none
  update false start path {} root

mutual

/-- The finished value of an item. -/
def Item.tree : Item → Tree
  | .value v => v
  | .table _ entries => .table (treesOf entries)
  | .tables all => .list (tablesOf all).reverse

/-- The finished entries of a table. -/
def treesOf : List (String × Item) → Table
  | [] => []
  | (name, item) :: rest => (name, item.tree) :: treesOf rest

/-- The finished tables of a list. -/
def tablesOf : List (List (String × Item)) → List Tree
  | [] => []
  | entries :: rest => .table (treesOf entries) :: tablesOf rest

end

/-! ### Names -/

/-- The characters of names without quotes. -/
def isBareChar (c : Char) : Bool := c.isAlphanum || c = '-' || c = '_'

/-- One part of a dotted name. -/
def readPart? (cs : List Char) : Option (String × List Char) :=
  let bare := cs.takeWhile isBareChar
  if bare.isEmpty then readLineText? cs else some (String.ofList bare, cs.drop bare.length)

/-- How many brackets and braces may stand inside each other, and how many parts a name may have. -/
def maxDepth : Nat := 79

/-- A dotted name: the parts but the last one, the last one, and the text after blanks. -/
def readName? : Nat → List String → List Char → Option (List String × String × List Char)
  | 0, _, _ => none
  | fuel + 1, acc, cs =>
    match readPart? (dropBlanks cs) with
    | none => none
    | some (part, rest) =>
      match dropBlanks rest with
      | '.' :: rest => readName? fuel (part :: acc) rest
      | rest => if acc.length < maxDepth then some (acc.reverse, part, rest) else none

/-! ### Values -/

/-- The text after a comment, which ends before the line break. -/
def dropComment? : List Char → Option (List Char)
  | '#' :: cs =>
    let comment := cs.takeWhile fun c => c ≠ '\n' && c ≠ '\r'
    if comment.all isShown then some (cs.drop comment.length) else none
  | cs => some cs

/-- The text after blanks, line breaks and comments. -/
def dropGap? : Nat → List Char → Option (List Char)
  | 0, _ => none
  | fuel + 1, cs =>
    match dropComment? (dropBlanks cs) with
    | none => none
    | some rest =>
      match dropBreak? rest with
      | some rest => dropGap? fuel rest
      | none => some rest

@[inherit_doc dropGap?]
def skipGap? (cs : List Char) : Option (List Char) := dropGap? (cs.length + 1) cs

mutual

/-- A value, in which `depth` brackets and braces may stand inside each other. -/
def readValue? : Nat → Nat → List Char → Option (Tree × List Char)
  | 0, _, _ => none
  | fuel + 1, depth, cs =>
    match cs with
    | '[' :: rest => if depth = 0 then none else readItems? fuel (depth - 1) [] rest
    | '\x7b' :: rest =>
      if depth = 0 then none
      else
        match dropBlanks rest with
        | '\x7d' :: rest => some (.table [], rest)
        | rest => readEntries? fuel (depth - 1) [] rest
    | 't' :: 'r' :: 'u' :: 'e' :: rest => some (.bool true, rest)
    | 'f' :: 'a' :: 'l' :: 's' :: 'e' :: rest => some (.bool false, rest)
    | '"' :: _ => (readText? cs).map fun (s, rest) => (.text s, rest)
    | '\'' :: _ => (readText? cs).map fun (s, rest) => (.text s, rest)
    | _ =>
      match readMoment? cs with
      | none => none
      | some (some found) => some found
      | some none => readNumber? cs

/-- The items of a list up to its closing bracket. -/
def readItems? : Nat → Nat → List Tree → List Char → Option (Tree × List Char)
  | 0, _, _, _ => none
  | fuel + 1, depth, acc, cs =>
    match skipGap? cs with
    | none => none
    | some (']' :: rest) => some (.list acc.reverse, rest)
    | some rest =>
      match readValue? fuel depth rest with
      | none => none
      | some (item, rest) =>
        match skipGap? rest with
        | some (',' :: rest) => readItems? fuel depth (item :: acc) rest
        | some (']' :: rest) => some (.list (item :: acc).reverse, rest)
        | _ => none

/-- The entries of a table up to its closing brace, all on one line. -/
def readEntries? : Nat → Nat → Entries → List Char → Option (Tree × List Char)
  | 0, _, _, _ => none
  | fuel + 1, depth, t, cs =>
    match readName? (cs.length + 1) [] cs with
    | some (path, name, '=' :: rest) =>
      match readValue? fuel depth (dropBlanks rest) with
      | none => none
      | some (v, rest) =>
        match setEntry path name v {} t with
        | none => none
        | some t =>
          match dropBlanks rest with
          | ',' :: rest => readEntries? fuel depth t rest
          | '\x7d' :: rest => some (.table (treesOf t), rest)
          | _ => none
    | _ => none

end

/-! ### Lines -/

/-- What has been read of a text. -/
structure Progress where
  root : Entries := []
  /-- The names that lead to the table that is open. -/
  path : List String := []

/-- The line that opens a table, its first bracket taken. -/
def readHeader? (p : Progress) (cs : List Char) : Option (Progress × List Char) := do
  let listed := cs.head? = some '['
  let cs := if listed then cs.drop 1 else cs
  let (path, name, rest) ← readName? (cs.length + 1) [] cs
  let rest ← expect? ']' rest
  let rest ← if listed then expect? ']' rest else some rest
  let root ← if listed then openListed path name p.root else openTable path name p.root
  some (⟨root, path ++ [name]⟩, rest)

/-- The line that sets an entry of the open table. -/
def readEntry? (p : Progress) (cs : List Char) : Option (Progress × List Char) := do
  let (path, name, rest) ← readName? (cs.length + 1) [] cs
  let rest ← expect? '=' rest
  let (v, rest) ← readValue? (2 * rest.length + 2) maxDepth (dropBlanks rest)
  let root ← update false (setEntry path name v) p.path {} p.root
  some ({ p with root := root }, rest)

/-- Reads the lines of a text. -/
def readLines? : Nat → Progress → List Char → Option Progress
  | 0, _, _ => none
  | fuel + 1, p, cs =>
    let line := match dropBlanks cs with
      | [] => some (p, [])
      | '[' :: rest => readHeader? p rest
      | c :: rest =>
        if c = '#' || c = '\n' || c = '\r' then some (p, c :: rest) else readEntry? p (c :: rest)
    match line with
    | none => none
    | some (p, rest) =>
      match dropComment? (dropBlanks rest) with
      | none => none
      | some [] => some p
      | some rest =>
        match dropBreak? rest with
        | none => none
        | some rest => readLines? fuel p rest

/-- The table of a text. -/
def read? (s : String) : Option Table :=
  let cs := s.toList
  (readLines? (cs.length + 1) {} cs).map fun p => treesOf p.root

end WorkQueue.Settings.Toml
