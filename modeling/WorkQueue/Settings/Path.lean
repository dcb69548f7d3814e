import WorkQueue.Text.Numeral

/-!
# Paths of settings

A name at the top of a source may be a path that leads into tables and lists, as in
`worker.batch_size` or `task_types[0].name`. A name that is no path stands for itself.

## Main definitions

* `Settings.Step`, `Settings.Path`: a way to a setting
* `Settings.Path.ofName`: the path that a name spells
-/

namespace WorkQueue.Settings

/-- One step on the way to a setting. -/
inductive Step where
  /-- To an entry of a table. -/
  | name (s : String)
  /-- To an item of a list; negative positions count from its end. -/
  | item (position : Int)
  deriving DecidableEq, Inhabited

/-- The steps from a table to a setting. -/
abbrev Path := List Step

namespace Path

/-- The characters of a name in a path. -/
def isNameChar (c : Char) : Bool := c.isAlphanum || c = ' ' || c = '_' || c = '-'

/-- The name at the head of a text and the text after it. -/
def takeName? (cs : List Char) : Option (Step × List Char) :=
  let name := cs.takeWhile isNameChar
  if name.isEmpty then none else some (.name (String.ofList name), cs.dropWhile isNameChar)

/-- The position before a closing bracket and the text after the bracket. Only a minus sign may
stand before the digits, and blanks around them. -/
def takePosition? (cs : List Char) : Option (Step × List Char) :=
  let blank (c : Char) : Bool := c = ' ' || c = '\t'
  let cs := cs.dropWhile blank
  let numeral := cs.takeWhile fun c => c = '-' || c.isDigit
  match (cs.drop numeral.length).dropWhile blank with
  | ']' :: rest => (Text.word? 10 numeral).map fun n => (.item n, rest)
  | _ => none

/-- The steps that a text spells after the first one. -/
def stepsFrom? : Nat → List Char → Option Path
  | _, [] => some []
  | 0, _ => none
  | fuel + 1, c :: cs => do
    let (step, rest) ←
      if c = '.' then takeName? cs else if c = '[' then takePosition? cs else none
    let steps ← stepsFrom? fuel rest
    some (step :: steps)

/-- The path that a text spells. -/
def ofText? (text : String) : Option Path := do
  let (step, rest) ← takeName? text.toList
  let steps ← stepsFrom? rest.length rest
  some (step :: steps)

/-- The path that a name spells; any other name is a path of one step. -/
def ofName (name : String) : Path := (ofText? name).getD [.name name]

end Path

end WorkQueue.Settings
