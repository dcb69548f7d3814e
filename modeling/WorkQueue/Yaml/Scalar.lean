import WorkQueue.Yaml
import WorkQueue.Yaml.Cursor

/-!
# YAML scalars

Scalars without quotes, in single quotes and in double quotes. A scalar may go over several lines: a
line break between two words is read as a space, and each further one as itself.

## Main definitions

* `Yaml.Cursor.plain?`: a scalar without quotes
* `Yaml.Cursor.quoted?`: a scalar in quotes
-/

namespace WorkQueue.Yaml

/-! ### Between words -/

/-- What stands between two words of a scalar. -/
structure Gap where
  /-- The blanks after the first word on its line, the last one first. -/
  blanks : List Char := []
  /-- The line of the first word has ended. -/
  ended : Bool := false
  /-- Its line break was escaped. -/
  escaped : Bool := false
  /-- The number of further line breaks. -/
  further : Nat := 0

/-- The characters that a gap stands for. -/
def Gap.characters (g : Gap) : List Char :=
  if !g.ended then g.blanks.reverse
  else if 0 < g.further then List.replicate g.further '\n'
  else if g.escaped then [] else [' ']

namespace Cursor

/-- Skips a gap. At the start of a line, left of the column `indent`, a tab is refused in quotes,
and elsewhere wherever content follows on its line. A comment on such a line hides its line
break. -/
def gapFrom (indent : Int) (inQuotes : Bool) : Nat → Gap → Cursor → Option (Gap × Cursor)
  | 0, _, _ => none
  | fuel + 1, g, p =>
    match p.rest with
    | [] => some (g, p)
    | c :: _ =>
      if c = '\n' then
        p.next.gapFrom indent inQuotes fuel
          (if g.ended then { g with further := g.further + 1 }
            else { g with ended := true, blanks := [] })
      else if !isBlank c then some (g, p)
      else if !g.ended then p.next.gapFrom indent inQuotes fuel { g with blanks := c :: g.blanks }
      else if c = '\t' && p.isLeftOf indent then
        if inQuotes then none
        else
          match p.finishLine with
          | none => none
          | some q =>
            if q.atBreak then q.gapFrom indent inQuotes fuel { g with ended := q.leading } else none
      else p.next.gapFrom indent inQuotes fuel g

/-- Skips a gap; `g` is what has been skipped already. -/
def gap (p : Cursor) (indent : Int) (inQuotes : Bool) (g : Gap) : Option (Gap × Cursor) :=
  p.gapFrom indent inQuotes (2 * p.rest.length + 2) g

/-! ### Without quotes -/

/-- Takes the characters of a word without quotes, in front of the ones in `acc`. -/
def plainWordFrom (flow : Bool) : Nat → List Char → Cursor → List Char × Cursor
  | 0, acc, p => (acc, p)
  | fuel + 1, acc, p =>
    match p.rest with
    | [] => (acc, p)
    | c :: cs =>
      let ends := isBlank c || c = '\n' || (flow && isFlow c) ||
        (c = ':' && (startsBlank cs || (flow && startsFlow cs)))
      if ends then (acc, p) else p.next.plainWordFrom flow fuel (c :: acc)

/-- Takes words while they belong to the scalar; `between` is the gap before the next one, and `acc`
holds the characters so far, the last one first. -/
def plainFrom (flow : Bool) (margin : Int) :
    Nat → List Char → List Char → Cursor → Option (List Char × Cursor)
  | 0, _, _, _ => none
  | fuel + 1, between, acc, p =>
    if p.isMarked || p.rest.head? = some '#' then some (acc, p)
    else if flow && p.rest.head? = some '-' && startsFlow (p.rest.drop 1) then none
    else
      let (word, q) := p.plainWordFrom flow p.rest.length []
      if word.isEmpty then some (acc, q)
      else
        let acc := word ++ between.reverse ++ acc
        if q.rest.isEmpty || !startsBlank q.rest then some (acc, q)
        else
          match q.gap margin false {} with
          | none => none
          | some (g, r) =>
            if !flow && r.isLeftOf margin then some (acc, r)
            else r.plainFrom flow margin fuel g.characters acc

/-- Reads a scalar without quotes. Its further lines start at the least column `margin`, or
anywhere inside brackets. -/
def plain? (flow : Bool) (margin : Int) (p : Cursor) : Option (String × Cursor) :=
  if flow && p.isLeftOf margin then none
  else
    match p.plainFrom flow margin (p.rest.length + 1) [] [] with
    | none => none
    | some (acc, q) => if acc.isEmpty then none else some (String.ofList acc.reverse, q)

/-! ### In quotes -/

/-- The character that is spelled by a number of hexadecimal digits at the head of a text. -/
def codePoint? (digits : Nat) (cs : List Char) : Option Char :=
  if cs.length < digits then none
  else
    match Text.natural? 16 (cs.take digits) with
    | none => none
    | some n => if n.isValidChar then some (Char.ofNat n) else none

/-- The escapes of one character. -/
def namedEscapes : List (Char × Char) :=
  [('0', '\x00'), ('a', '\x07'), ('b', '\x08'), ('t', '\t'), ('\t', '\t'), ('n', '\n'),
    ('v', '\x0b'), ('f', '\x0c'), ('r', '\r'), ('e', '\x1b'), (' ', ' '), ('"', '"'), ('/', '/'),
    ('\\', '\\'), ('N', '\u0085'), ('_', '\u00a0'), ('L', '\u2028'), ('P', '\u2029')]

/-- The character that an escape stands for, and the length of the escape, its backslash taken. -/
def escape? : List Char → Option (Char × Nat)
  | [] => none
  | 'x' :: cs => (codePoint? 2 cs).map fun c => (c, 3)
  | 'u' :: cs => (codePoint? 4 cs).map fun c => (c, 5)
  | 'U' :: cs => (codePoint? 8 cs).map fun c => (c, 9)
  | c :: _ => (namedEscapes.find? fun e => e.1 = c).map fun e => (e.2, 1)

/-- How a word in quotes ends. -/
inductive WordEnd where
  /-- At the closing quote. -/
  | closed
  /-- Before blanks, a line break, or the end of the text. -/
  | blank
  /-- After an escaped line break. -/
  | escaped
  deriving DecidableEq

/-- Takes the characters of a word in quotes, in front of the ones in `acc`. -/
def quotedWordFrom : Nat → Char → List Char → Cursor → Option (List Char × Cursor × WordEnd)
  | 0, _, _, _ => none
  | fuel + 1, quote, acc, p =>
    match p.rest with
    | [] => some (acc, p, .blank)
    | c :: cs =>
      if isBlank c || c = '\n' then some (acc, p, .blank)
      else if c = quote then
        if quote = '\'' && cs.head? = some '\'' then
          (p.drop 2).quotedWordFrom fuel quote ('\'' :: acc)
        else some (acc, p, .closed)
      else if c = '\\' && quote = '"' then
        if cs.head? = some '\n' then some (acc, p.drop 2, .escaped)
        else
          match escape? cs with
          | none => none
          | some (d, length) => (p.drop (1 + length)).quotedWordFrom fuel quote (d :: acc)
      else p.next.quotedWordFrom fuel quote (c :: acc)

/-- Takes words up to the closing quote; `acc` holds the characters so far, the last one first. -/
def quotedFrom (indent : Int) (quote : Char) :
    Nat → List Char → Cursor → Option (List Char × Cursor)
  | 0, _, _ => none
  | fuel + 1, acc, p =>
    if p.isMarked || p.rest.isEmpty || p.isLeftOf indent then none
    else
      match p.quotedWordFrom (p.rest.length + 1) quote acc with
      | none => none
      | some (acc, q, ending) =>
        if q.rest.head? = some quote then some (acc, q.next)
        else
          let escaped := ending = .escaped
          match q.gap indent true { ended := escaped, escaped := escaped } with
          | none => none
          | some (g, r) => r.quotedFrom indent quote fuel (g.characters.reverse ++ acc)

/-- Whether a scalar in quotes that starts at `start` may be followed by what stands here: the end
of the line, the colon after a key, or a sign of the surrounding brackets. -/
def mayFollowQuoted (flow : Bool) (start p : Cursor) : Bool :=
  p.atBreak ||
    (if flow then p.rest.head?.any fun c => c = ',' || c = ']' || c = '\x7d' || c = ':'
      else p.rest.head? = some ':' && p.line = start.line)

/-- Reads a scalar in quotes and the rest of its line. -/
def quoted? (flow : Bool) (indent : Int) (p : Cursor) : Option (String × Cursor) := do
  let quote ← p.rest.head?
  let (acc, q) ← p.next.quotedFrom indent quote (p.rest.length + 1) []
  let r ← q.finishLine
  if mayFollowQuoted flow p r then some (String.ofList acc.reverse, r) else none

end Cursor

end WorkQueue.Yaml
