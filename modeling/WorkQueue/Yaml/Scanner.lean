import WorkQueue.Yaml.BlockScalar
import WorkQueue.Yaml.Property
import WorkQueue.Yaml.Scalar

/-!
# Scanning YAML text

Turns a text into tokens. Blocks start and end by the columns of their content. A key is recognized
only at the colon after it, so that the tokens for a key, and for a block or a mapping that starts
with it, are put in front of tokens that have been read already.

## Main definitions

* `Yaml.Scanner`: what is known in the middle of a text
* `Yaml.Scanner.step`: reading the next token
* `Yaml.tokens?`: the tokens of a text
-/

namespace WorkQueue.Yaml

/-- A place where a key may have started. -/
structure KeyStart where
  /-- A colon can still make it one. -/
  possible : Bool := false
  /-- Nothing but a key can stand there. -/
  required : Bool := false
  /-- The number of tokens before the place. -/
  tokens : Nat := 0
  index : Nat := 0
  line : Nat := 0
  column : Nat := 0
  deriving Inhabited

/-- A level of indentation. -/
structure Level where
  /-- The column of the level around it. -/
  outer : Int
  /-- A block starts and ends with the level. -/
  isBlock : Bool
  deriving Inhabited

/-- What is known in the middle of a text. -/
structure Scanner where
  cursor : Cursor
  /-- The tokens so far, the last one first. -/
  tokens : List Token := []
  /-- The last token is an anchor or a tag in the first column. -/
  namedAtMargin : Bool := false
  /-- A key, or an entry of a block, may start here. -/
  keyAllowed : Bool := true
  /-- Where the last possible key started inside the innermost brackets. -/
  key : KeyStart := {}
  /-- The same for the brackets around them. -/
  outerKeys : List KeyStart := []
  /-- The column of the innermost level. -/
  indent : Int := -1
  /-- The levels, the innermost first. -/
  levels : List Level := []
  /-- The place where a colon needs no blank after it. -/
  adjacentAt : Nat := 0
  /-- A mapping in braces or with marked keys has been started. -/
  mappingStarted : Bool := false
  /-- The last colon belongs to a mapping without braces inside of brackets. -/
  mappingImplied : Bool := false
  deriving Inhabited

namespace Scanner

/-- The place is inside brackets. -/
def inFlow (s : Scanner) : Bool := !s.outerKeys.isEmpty

def push (s : Scanner) (t : Token) : Scanner :=
  { s with tokens := t :: s.tokens, namedAtMargin := false }

/-- Puts a token after the first `position` ones. -/
def insert (s : Scanner) (position : Nat) (t : Token) : Scanner :=
  let after := s.tokens.length - position
  { s with tokens := s.tokens.take after ++ t :: s.tokens.drop after }

def moveTo (s : Scanner) (p : Cursor) : Scanner := { s with cursor := p }

def allowKey (s : Scanner) : Scanner := { s with keyAllowed := true }

def forbidKey (s : Scanner) : Scanner := { s with keyAllowed := false }

/-- Moves to a place; outside of brackets a key may start on each new line. -/
def passTo (s : Scanner) (p : Cursor) : Scanner :=
  { s with
    cursor := p
    keyAllowed := s.keyAllowed || (!s.inFlow && p.line ≠ s.cursor.line) }

/-- Moves to the rest of the line. -/
def finishLine (s : Scanner) : Option Scanner := s.cursor.finishLine.map s.moveTo

/-- Moves to the next content. -/
def skip (s : Scanner) : Option Scanner := (s.cursor.skip s.indent).map s.passTo

/-! ### Keys -/

/-- Notes that a key may start here. -/
def saveKey (s : Scanner) : Scanner :=
  if s.keyAllowed then
    let p := s.cursor
    { s with key := {
        possible := true
        required := !s.inFlow && s.indent = p.column && (s.levels.head?.any (·.isBlock))
        tokens := s.tokens.length
        index := p.index
        line := p.line
        column := p.column } }
  else s

/-- Gives up the last possible key, unless it is required. -/
def dropKey (s : Scanner) : Option Scanner :=
  if s.key.possible && s.key.required then none
  else some { s with key := { s.key with possible := false } }

/-- How far the colon may stand from the start of its key. -/
def maxKeyLength : Nat := 1024

/-- A key that a colon can no longer follow, because it is on another line or too far away. -/
def isStale (p : Cursor) (k : KeyStart) : Bool :=
  k.possible && (k.line < p.line || k.index + maxKeyLength < p.index)

/-- Gives up the possible keys that have become stale. -/
def dropStaleKeys (s : Scanner) : Option Scanner :=
  if s.inFlow || !isStale s.cursor s.key then some s
  else s.dropKey

/-! ### Levels -/

/-- Starts a block in a column, unless the current level already has that column. The token of the
block is put at the given position, or last. -/
def openBlock (s : Scanner) (column : Nat) (t : Token) (position : Option Nat) : Scanner :=
  if s.inFlow then s
  else
    let s : Scanner := match s.levels with
      | l :: rest =>
        if s.indent ≤ column && !l.isBlock then { s with indent := l.outer, levels := rest } else s
      | [] => s
    if s.indent < column then
      let s := { s with indent := column, levels := ⟨s.indent, true⟩ :: s.levels }
      match position with
      | some n => s.insert n t
      | none => s.push t
    else s

/-- Ends the levels that are deeper than a column. -/
def closeLevels (column : Int) : List Level → Scanner → Scanner
  | [], s => s
  | l :: rest, s =>
    if s.indent ≤ column then s
    else
      let s := { s with indent := l.outer, levels := rest }
      closeLevels column rest (if l.isBlock then s.push .blockEnd else s)

@[inherit_doc closeLevels]
def closeTo (s : Scanner) (column : Int) : Scanner :=
  if s.inFlow then s else closeLevels column s.levels s

/-- Starts a level one column deeper, which is no block, directly in a block. -/
def deepen (s : Scanner) : Scanner :=
  if !s.inFlow && s.levels.head?.any (·.isBlock) then
    { s with indent := s.indent + 1, levels := ⟨s.indent, false⟩ :: s.levels }
  else s

/-- Ends the innermost levels that are no blocks. -/
def leaveDeepened : List Level → Scanner → Scanner
  | [], s => s
  | l :: rest, s =>
    if l.isBlock then s else leaveDeepened rest { s with indent := l.outer, levels := rest }

@[inherit_doc leaveDeepened]
def flatten (s : Scanner) : Scanner := leaveDeepened s.levels s

/-! ### Brackets -/

/-- How many brackets may stand inside each other. -/
def maxFlowDepth : Nat := 255

/-- An opening bracket. -/
def openFlow (s : Scanner) (t : Token) : Option Scanner :=
  let s := s.saveKey.deepen
  if maxFlowDepth ≤ s.outerKeys.length then none
  else
    let s : Scanner := { s with
      key := {}
      outerKeys := s.key :: s.outerKeys
      mappingStarted := s.mappingStarted || t = .flowMappingStart }
    (s.allowKey.moveTo s.cursor.next).finishLine.map (·.push t)

/-- The end of a mapping without braces. -/
def closeImplied (s : Scanner) : Scanner :=
  if s.mappingImplied then
    { s with mappingImplied := false, mappingStarted := false }.push .flowMappingEnd
  else s

/-- A closing bracket. A colon may directly follow it inside other brackets. -/
def closeFlow (s : Scanner) (t : Token) : Option Scanner := do
  let s ← s.dropKey
  let s : Scanner := match s.outerKeys with
    | k :: rest => { s with key := k, outerKeys := rest }
    | [] => s
  let s := s.forbidKey.closeImplied
  let s ← (s.moveTo s.cursor.next).finishLine
  let s := if s.inFlow then { s with adjacentAt := s.cursor.index } else s
  return s.push t

/-- A comma. -/
def flowEntry (s : Scanner) : Option Scanner := do
  let s ← s.dropKey
  let s := s.allowKey.closeImplied
  return (← (s.moveTo s.cursor.next).finishLine).push .flowEntry

/-! ### Entries -/

/-- The dash before an item of a block. -/
def blockEntry (s : Scanner) : Option Scanner := do
  let p := s.cursor
  if s.inFlow || !s.keyAllowed || (s.namedAtMargin && p.column = 0 && -1 < s.indent) then none
  else
    let (q, tab, _) ← p.next.finishLine?
    if tab && q.rest.head? = some '-' && startsBlank (q.rest.drop 1) then none
    else
      let s := (s.openBlock p.column .blockSequenceStart none).moveTo q
      let s := if q.rest.head? = some '\n' || startsFlow q.rest then s.deepen else s
      return (← s.dropKey).allowKey.push .blockEntry

/-- The question mark before a key. -/
def markedKey (s : Scanner) : Option Scanner := do
  let p := s.cursor
  if !s.inFlow && !s.keyAllowed then none
  else
    let s := if s.inFlow then { s with mappingStarted := true }
      else s.openBlock p.column .blockMappingStart none
    let s ← s.dropKey
    let s := if s.inFlow then s.forbidKey else s.allowKey
    let q := p.next
    if q.rest.head? = some ' ' || q.rest.head? = some '\n' then
      let r := q.skipSpaces
      if r.rest.head? = some '\t' then none else return (s.passTo r).push .key
    else none

/-- The place after a colon that separates a key from its value. A tab right after the colon does
not separate it from a word. -/
def passColon (p : Cursor) : Option Cursor :=
  let q := p.next
  if q.rest.head? = some '\t' then
    match q.finishLine? with
    | none => none
    | some (r, _, space) => if !space && r.rest.head?.any isWordChar then none else some r
  else some q

/-- The colon before a value. What stands before it becomes a key, if it can be one. -/
def value (s : Scanner) : Option Scanner := do
  let p := s.cursor
  let k := s.key
  let implied := s.inFlow && !s.mappingStarted
  let s := { s with mappingImplied := implied }.moveTo (← passColon p)
  if k.possible then
    if implied && k.line < p.line then none
    else
      let s := s.insert k.tokens .key
      let s := if implied then s.insert k.tokens .flowMappingStart else s
      let s := (s.openBlock k.column .blockMappingStart (some k.tokens)).deepen
      return ({ s with key := { k with possible := false } }.forbidKey).push .value
  else
    let s := if implied then s.push .flowMappingStart else s
    if !s.inFlow && !s.keyAllowed then none
    else
      let s := (s.openBlock p.column .blockMappingStart none).deepen
      return (if s.inFlow then s.forbidKey else s.allowKey).push .value

/-! ### Names and scalars -/

/-- An anchor or an alias. -/
def anchor (s : Scanner) (token : String → Token) (names : Bool) : Option Scanner := do
  let (name, q) ← s.cursor.anchorName?
  let atMargin := names && s.cursor.column = 0
  return { (s.saveKey.forbidKey.moveTo q).push (token name) with namedAtMargin := atMargin }

def tag (s : Scanner) : Option Scanner := do
  let (name, q) ← s.cursor.tagName? s.inFlow
  let atMargin := s.cursor.column = 0
  return { (s.saveKey.forbidKey.moveTo q).push (.tag name) with namedAtMargin := atMargin }

/-- A scalar in a block of its own. -/
def blockScalar (s : Scanner) (literal : Bool) : Option Scanner := do
  let s := s.saveKey.allowKey.flatten
  let (body, q) ← s.cursor.blockScalar? literal s.indent
  return (s.moveTo q).push (.scalar false body)

/-- A scalar in quotes. A colon may directly follow it inside brackets. -/
def quoted (s : Scanner) : Option Scanner := do
  let s := s.saveKey.forbidKey
  let (body, q) ← s.cursor.quoted? s.inFlow s.indent
  let s ← (s.moveTo q).skip
  return ({ s with adjacentAt := s.cursor.index } : Scanner).push (.scalar false body)

/-- A scalar without quotes. -/
def plain (s : Scanner) : Option Scanner := do
  let s := s.saveKey.forbidKey.flatten
  let (body, q) ← s.cursor.plain? s.inFlow (s.indent + 1)
  let s := (s.moveTo q).push (.scalar true body)
  return if q.leading then s.allowKey else s

/-! ### Documents -/

/-- Leaves all levels, in front of something that belongs to no document. -/
def leaveDocument (s : Scanner) : Option Scanner :=
  (s.closeTo (-1)).dropKey.map (·.forbidKey)

/-- The end of the text. -/
def finish (s : Scanner) : Option Scanner :=
  if (s.key :: s.outerKeys).any fun k => k.required && k.possible then none
  else
    let s : Scanner := { s with
      key := { s.key with possible := false }
      outerKeys := s.outerKeys.map fun k => { k with possible := false } }
    s.leaveDocument.map (·.push .streamEnd)

def directive (s : Scanner) : Option Scanner := do
  let s ← s.leaveDocument
  let (token, q) ← s.cursor.directive?
  return (s.moveTo q).push token

/-- A start marker, or an end marker, which has to stand alone on its line. -/
def documentMarker (s : Scanner) (t : Token) : Option Scanner := do
  let s ← s.leaveDocument
  let s := (s.moveTo (s.cursor.drop 3)).push t
  if t = .documentEnd then
    let s ← s.finishLine
    if s.cursor.atBreak then return s else none
  else return s

/-! ### Tokens -/

/-- Reads the token that starts with the next character. -/
def content (s : Scanner) : Option Scanner :=
  match s.cursor.rest with
  | [] => none
  | c :: cs =>
    let blankNext := startsBlank cs
    let colon := blankNext ||
      (s.inFlow && (startsFlow cs || s.cursor.index = s.adjacentAt))
    if c = '[' then s.openFlow .flowSequenceStart
    else if c = '\x7b' then s.openFlow .flowMappingStart
    else if c = ']' then s.closeFlow .flowSequenceEnd
    else if c = '\x7d' then s.closeFlow .flowMappingEnd
    else if c = ',' then s.flowEntry
    else if c = '-' && blankNext then s.blockEntry
    else if c = '?' && blankNext then s.markedKey
    else if c = ':' && colon then s.value
    else if c = '*' then s.anchor .alias false
    else if c = '&' then s.anchor .anchor true
    else if c = '!' then s.tag
    else if (c = '|' || c = '>') && !s.inFlow then s.blockScalar (c = '|')
    else if c = '\'' || c = '"' then s.quoted
    else if c = '%' || c = '@' || c = '\x60' then none
    else s.plain

/-- Reads the next token, and the ends of the blocks before it. -/
def step (s : Scanner) : Option Scanner := do
  let s ← (← s.skip).dropStaleKeys
  let p := s.cursor
  let s := s.closeTo p.column
  if p.rest.isEmpty then s.finish
  else if p.column = 0 && p.rest.head? = some '%' then s.directive
  else if p.atMarker '-' then s.documentMarker .documentStart
  else if p.atMarker '.' then s.documentMarker .documentEnd
  else if p.isLeftOf s.indent then none
  else s.content

/-- Reads tokens up to the end of the text. -/
def run : Nat → Scanner → Option (List Token)
  | 0, _ => none
  | fuel + 1, s =>
    match s.step with
    | none => none
    | some s => if s.tokens.head? = some .streamEnd then some s.tokens.reverse else run fuel s

end Scanner

/-- The tokens of a text whose line breaks are line feeds. -/
def tokens? (cs : List Char) : Option (List Token) :=
  Scanner.run (cs.length + 2) { cursor := { rest := cs } }

end WorkQueue.Yaml
