import WorkQueue.Yaml.Cursor

/-!
# YAML block scalars

Scalars whose text is a block of indented lines. A literal one keeps its line breaks; in a folded
one a line break between two lines that start with no blank is read as a space.

## Main definitions

* `Yaml.Cursor.blockScalar?`: a block scalar, from its header on
-/

namespace WorkQueue.Yaml

/-- What becomes of the line breaks at the end of a block scalar. -/
inductive Chomping where
  /-- None is left. -/
  | strip
  /-- The one of the last line is left. -/
  | clip
  /-- All are left. -/
  | keep
  deriving DecidableEq, Inhabited

/-- The header of a block scalar. -/
structure BlockHeader where
  chomping : Chomping := .clip
  /-- How much deeper than the surroundings the lines are indented, or zero when the first line
  tells. -/
  increment : Nat := 0
  deriving DecidableEq, Inhabited

namespace Cursor

/-- The sign for the line breaks at the end. -/
def takeChomping? (p : Cursor) : Option (Chomping × Cursor) :=
  match p.rest with
  | '+' :: _ => some (.keep, p.next)
  | '-' :: _ => some (.strip, p.next)
  | _ => none

/-- The digit for the indentation, zero if there is none. -/
def takeIncrement? (p : Cursor) : Option (Nat × Cursor) :=
  match p.rest with
  | c :: _ =>
    if c = '0' then none
    else if c.isDigit then some (c.toNat - '0'.toNat, p.next) else some (0, p)
  | [] => some (0, p)

/-- The signs of a header, which may come in either order. -/
def blockHeader? (p : Cursor) : Option (BlockHeader × Cursor) :=
  match p.takeChomping? with
  | some (chomping, q) => (q.takeIncrement?).map fun (n, r) => (⟨chomping, n⟩, r)
  | none =>
    (p.takeIncrement?).map fun (n, q) =>
      match if 0 < n then q.takeChomping? else none with
      | some (chomping, r) => (⟨chomping, n⟩, r)
      | none => (⟨.clip, n⟩, q)

/-- Skips lines without content and the indentation of the next one, up to the column `limit` if
there is one. Also returns the number of skipped line breaks, and the largest column reached. -/
def skipIndentFrom (limit : Option Nat) : Nat → Nat → Nat → Cursor → Nat × Nat × Cursor
  | 0, breaks, widest, p => (breaks, widest, p)
  | fuel + 1, breaks, widest, p =>
    let room := (limit.map fun column => column - p.column).getD p.rest.length
    let q := (p.takeFrom room (· = ' ') []).2
    let widest := max widest q.column
    if q.rest.head? = some '\n' then q.next.skipIndentFrom limit fuel (breaks + 1) widest
    else (breaks, widest, q)

@[inherit_doc skipIndentFrom]
def skipIndent (p : Cursor) (limit : Option Nat) : Nat × Nat × Cursor :=
  p.skipIndentFrom limit (p.rest.length + 1) 0 0

end Cursor

/-- The lines of a block scalar that have been read. -/
structure BlockLines where
  /-- The characters so far, the last one first. -/
  text : List Char := []
  /-- The last line has ended. -/
  ended : Bool := false
  /-- The number of line breaks after it. -/
  further : Nat := 0
  /-- The last line started with a blank. -/
  startedBlank : Bool := false

namespace BlockLines

/-- The line breaks after the last line, each as itself. -/
def breaks (b : BlockLines) : List Char :=
  (if b.ended then ['\n'] else []) ++ List.replicate b.further '\n'

/-- What stands between the last line and one that may start with a blank. -/
def join (literal startsBlank : Bool) (b : BlockLines) : List Char :=
  if !literal && b.ended && !b.startedBlank && !startsBlank then
    if b.further = 0 then [' '] else List.replicate b.further '\n'
  else b.breaks

end BlockLines

namespace Cursor

/-- Reads the lines that start in the column `indent`. -/
def blockLinesFrom (literal : Bool) (indent : Nat) : Nat → BlockLines → Cursor → BlockLines × Cursor
  | 0, b, p => (b, p)
  | fuel + 1, b, p =>
    if p.column ≠ indent || p.rest.isEmpty || p.atMarker '.' then (b, p)
    else
      let startsBlank := p.rest.head?.any isBlank
      let (line, q) := p.takeFrom p.rest.length (fun c => c ≠ '\n') []
      let text := line ++ (b.join literal startsBlank).reverse ++ b.text
      if q.rest.isEmpty then (⟨text, false, 0, startsBlank⟩, q)
      else
        let (further, _, r) := q.next.skipIndent (some indent)
        r.blockLinesFrom literal indent fuel ⟨text, true, further, startsBlank⟩

/-- The line breaks at the end of a block scalar that ends at `p`. At the end of the text an
unfinished line counts as ended. -/
def chompedBreaks (chomping : Chomping) (indent : Nat) (b : BlockLines) (p : Cursor) : List Char :=
  match chomping with
  | .strip => []
  | _ =>
    (if b.ended then ['\n'] else []) ++
      (if p.rest.isEmpty && max indent 1 ≤ p.column then ['\n'] else []) ++
      (if chomping = .keep then List.replicate b.further '\n' else [])

/-- The text of a block scalar without any lines, of which `further` line breaks follow the header
up to the end of the text. -/
def emptyBlock (chomping : Chomping) (headerEnded : Bool) (further : Nat) : String :=
  if chomping = .strip || !headerEnded then ""
  else if chomping = .keep && 0 < further then String.ofList (List.replicate further '\n')
  else "\n"

/-- Reads a block scalar from its sign on. `indent` is the column of the surroundings. -/
def blockScalar? (literal : Bool) (indent : Int) (p : Cursor) : Option (String × Cursor) := do
  let (header, q) ← p.next.blockHeader?
  let q ← q.finishLine
  if !q.atBreak then none
  else
    let q := q.next
    if q.rest.head? = some '\t' then none
    else
      let (further, column, r) :=
        if 0 < header.increment then
          let column := if 0 ≤ indent then indent.toNat + header.increment else header.increment
          let (further, _, r) := q.skipIndent (some column)
          (further, column, r)
        else
          let (further, widest, r) := q.skipIndent none
          (further, max widest (indent + 1).toNat, r)
      if r.rest.isEmpty then some (emptyBlock header.chomping (r.line ≠ p.line) further, r)
      else if r.column < column && indent < r.column then none
      else
        let (b, s) := r.blockLinesFrom literal column (r.rest.length + 1) { further := further }
        let ending := chompedBreaks header.chomping column b s
        some (String.ofList (b.text.reverse ++ ending), s)

end Cursor

end WorkQueue.Yaml
