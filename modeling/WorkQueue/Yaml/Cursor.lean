/-!
# Places in a YAML text

A place in a text knows its line and column, since the columns of a text carry its structure. Line
breaks are single line feeds.

## Main definitions

* `Yaml.Cursor`: the place
* `Yaml.Cursor.skip`: the next place that holds content
* `Yaml.Cursor.finishLine`: the same, on the current line only
-/

namespace WorkQueue.Yaml

/-- A place in a text. -/
structure Cursor where
  /-- The characters that follow. -/
  rest : List Char
  /-- The number of characters before. -/
  index : Nat := 0
  line : Nat := 0
  column : Nat := 0
  /-- Only blanks stand before the place on its line. -/
  leading : Bool := true
  deriving Inhabited

/-! ### Characters -/

def isBlank (c : Char) : Bool := c = ' ' || c = '\t'

/-- The brackets and the comma of lists and mappings in brackets. -/
def isFlow (c : Char) : Bool := c = ',' || c = '[' || c = ']' || c = '\x7b' || c = '\x7d'

/-- Letters, digits, the hyphen and the low line. -/
def isWordChar (c : Char) : Bool := c.isAlphanum || c = '-' || c = '_'

/-- Whether a text starts with a blank or a line break, or is empty. -/
def startsBlank : List Char → Bool
  | [] => true
  | c :: _ => isBlank c || c = '\n'

/-- Whether a text starts with a sign of the brackets. -/
def startsFlow (cs : List Char) : Bool := cs.head?.any isFlow

namespace Cursor

/-- The place after the next character. -/
def next (p : Cursor) : Cursor :=
  match p.rest with
  | [] => p
  | '\n' :: cs =>
    { rest := cs, index := p.index + 1, line := p.line + 1, column := 0, leading := true }
  | c :: cs =>
    { p with
      rest := cs, index := p.index + 1, column := p.column + 1
      leading := p.leading && isBlank c }

def drop (p : Cursor) : Nat → Cursor
  | 0 => p
  | n + 1 => p.next.drop n

/-- Takes characters of a kind, in front of the ones in `acc`. -/
def takeFrom : Nat → (Char → Bool) → List Char → Cursor → List Char × Cursor
  | 0, _, acc, p => (acc, p)
  | fuel + 1, ok, acc, p =>
    match p.rest with
    | c :: _ => if ok c then p.next.takeFrom fuel ok (c :: acc) else (acc, p)
    | [] => (acc, p)

/-- The longest text of characters of a kind that follows, and the place after it. -/
def take (p : Cursor) (ok : Char → Bool) : String × Cursor :=
  let (acc, q) := p.takeFrom p.rest.length ok []
  (String.ofList acc.reverse, q)

/-- A line break or the end of the text follows. -/
def atBreak (p : Cursor) : Bool := p.rest.isEmpty || p.rest.head? = some '\n'

/-- A line that starts with three equal characters and a blank or nothing after them follows. -/
def atMarker (c : Char) (p : Cursor) : Bool :=
  p.column = 0 && [c, c, c].isPrefixOf p.rest && startsBlank (p.rest.drop 3)

/-- The start marker or the end marker of a document follows. -/
def isMarked (p : Cursor) : Bool := p.atMarker '-' || p.atMarker '.'

/-- The place lies left of a column. -/
def isLeftOf (p : Cursor) (column : Int) : Bool := decide (p.column < column)

/-! ### Blanks and comments -/

/-- The end of the line. -/
def skipComment (p : Cursor) : Cursor := (p.take fun c => c ≠ '\n').2

/-- Skips blanks and a comment up to the end of the line. A comment needs a blank before it. The two
flags tell whether a tab and whether a space was skipped. -/
def finishLineFrom : Nat → Bool → Bool → Cursor → Option (Cursor × Bool × Bool)
  | 0, _, _, _ => none
  | fuel + 1, tab, space, p =>
    match p.rest with
    | ' ' :: _ => p.next.finishLineFrom fuel tab true
    | '\t' :: _ => p.next.finishLineFrom fuel true space
    | '#' :: _ => if tab || space then some (p.skipComment, tab, space) else none
    | _ => some (p, tab, space)

@[inherit_doc finishLineFrom]
def finishLine? (p : Cursor) : Option (Cursor × Bool × Bool) :=
  p.finishLineFrom (p.rest.length + 1) false false

/-- The place after blanks and a comment on the line. -/
def finishLine (p : Cursor) : Option Cursor := p.finishLine?.map (·.1)

/-- Skips blanks, line breaks and comments. A tab left of the column `indent` may stand for
indentation only on a line without content. -/
def skipFrom (indent : Int) : Nat → Cursor → Option Cursor
  | 0, _ => none
  | fuel + 1, p =>
    if p.rest.head? = some '\t' && p.leading && p.isLeftOf indent then
      match p.finishLine with
      | none => none
      | some q => if q.atBreak then q.skipFrom indent fuel else none
    else
      match p.rest with
      | [] => some p
      | '#' :: _ => p.skipComment.skipFrom indent fuel
      | c :: _ => if isBlank c || c = '\n' then p.next.skipFrom indent fuel else some p

@[inherit_doc skipFrom]
def skip (p : Cursor) (indent : Int) : Option Cursor := p.skipFrom indent (2 * p.rest.length + 2)

/-- Skips spaces, line breaks and comments. -/
def skipSpacesFrom : Nat → Cursor → Cursor
  | 0, p => p
  | fuel + 1, p =>
    match p.rest with
    | [] => p
    | '#' :: _ => p.skipComment.skipSpacesFrom fuel
    | c :: _ => if c = ' ' || c = '\n' then p.next.skipSpacesFrom fuel else p

@[inherit_doc skipSpacesFrom]
def skipSpaces (p : Cursor) : Cursor := p.skipSpacesFrom (p.rest.length + 1)

end Cursor

end WorkQueue.Yaml
