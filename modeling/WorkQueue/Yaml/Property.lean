import WorkQueue.Text.Numeral
import WorkQueue.Yaml.Cursor
import WorkQueue.Yaml.Token

/-!
# YAML anchors, tags and directives

The names that a node carries, and the lines before a document that begin with a percent sign.

## Main definitions

* `Yaml.Cursor.anchorName?`: the name of an anchor or of an alias
* `Yaml.Cursor.tagName?`: a tag
* `Yaml.Cursor.directive?`: a directive
-/

namespace WorkQueue.Yaml

/-- The characters of names of anchors. -/
def isAnchorChar (c : Char) : Bool := !isBlank c && c ≠ '\n' && c ≠ '\ufeff' && !isFlow c

/-- The characters of locators. -/
def isLocatorChar (c : Char) : Bool :=
  c.isAlphanum || c = '-' || "#;/?:@&=+$,_.!~*'()[]%".toList.contains c

/-- The characters of tags after their handle. -/
def isTagChar (c : Char) : Bool := isLocatorChar c && !isFlow c && c ≠ '!'

namespace Cursor

/-- The name after the sign of an anchor or of an alias. -/
def anchorName? (p : Cursor) : Option (String × Cursor) :=
  let (name, q) := p.next.take isAnchorChar
  if name.isEmpty then none else some (name, q)

/-! ### Locators -/

/-- A byte that is written as a percent sign and two hexadecimal digits. -/
def escapedByte? (p : Cursor) : Option (Nat × Cursor) :=
  match p.rest with
  | '%' :: a :: b :: _ => (Text.natural? 16 [a, b]).map fun byte => (byte, p.drop 3)
  | _ => none

/-- The number of further bytes that a first byte announces. -/
def furtherBytes? (byte : Nat) : Option Nat :=
  if byte < 0x80 then some 0
  else if 0xC0 ≤ byte ∧ byte < 0xE0 then some 1
  else if 0xE0 ≤ byte ∧ byte < 0xF0 then some 2
  else if 0xF0 ≤ byte ∧ byte < 0xF8 then some 3
  else none

/-- Adds further bytes to a code. -/
def addBytes? : Nat → Nat → Cursor → Option (Nat × Cursor)
  | 0, code, p => some (code, p)
  | n + 1, code, p => do
    let (byte, q) ← p.escapedByte?
    if 0x80 ≤ byte ∧ byte < 0xC0 then addBytes? n (code * 256 + byte) q else none

/-- A character written as escaped bytes. Its code is the bytes themselves, one after the other, so
that only single bytes stand for what they spell. -/
def escapedChar? (p : Cursor) : Option (Char × Cursor) := do
  let (byte, q) ← p.escapedByte?
  let (code, r) ← addBytes? (← furtherBytes? byte) byte q
  if code.isValidChar then some (Char.ofNat code, r) else none

/-- Takes characters of a kind, escaped ones included, in front of the ones in `acc`. -/
def locatorFrom (ok : Char → Bool) : Nat → List Char → Cursor → Option (List Char × Cursor)
  | 0, acc, p => some (acc, p)
  | fuel + 1, acc, p =>
    match p.rest with
    | [] => some (acc, p)
    | c :: _ =>
      if !ok c then some (acc, p)
      else if c = '%' then
        match p.escapedChar? with
        | none => none
        | some (d, q) => q.locatorFrom ok fuel (d :: acc)
      else p.next.locatorFrom ok fuel (c :: acc)

/-- The longest text of characters of a kind that follows, escaped ones included. -/
def locator? (p : Cursor) (ok : Char → Bool) : Option (String × Cursor) :=
  (p.locatorFrom ok p.rest.length []).map fun (acc, q) => (String.ofList acc.reverse, q)

/-! ### Tags -/

/-- The exclamation mark at the head of a tag, the word after it, and the mark that may close the
word. -/
def tagHandle? (p : Cursor) : Option (String × Cursor) :=
  if p.rest.head? = some '!' then
    let (word, q) := p.next.take isWordChar
    if q.rest.head? = some '!' then some ("!" ++ word ++ "!", q.next) else some ("!" ++ word, q)
  else none

/-- A tag in angle brackets. -/
def verbatimTag? (p : Cursor) : Option (TagName × Cursor) := do
  let (suffix, q) ← (p.drop 2).locator? isLocatorChar
  if q.rest.head? = some '>' then some (⟨"", suffix⟩, q.next) else none

/-- A tag with a handle. A word that no mark closes belongs to what follows the handle. -/
def shorthandTag? (p : Cursor) : Option (TagName × Cursor) := do
  let (handle, q) ← p.tagHandle?
  let (word, r) ← q.locator? isTagChar
  if 2 ≤ handle.length && handle.toList.getLast? = some '!' then
    if word.isEmpty then none else some (⟨handle, word⟩, r)
  else
    let suffix := (handle.drop 1).toString ++ word
    some (if suffix.isEmpty then ⟨"", "!"⟩ else ⟨"!", suffix⟩, r)

/-- A tag, which a blank or inside brackets one of their signs has to follow. -/
def tagName? (p : Cursor) (flow : Bool) : Option (TagName × Cursor) := do
  let (name, q) ←
    if p.rest.drop 1 |>.head? |>.any (· = '<') then p.verbatimTag? else p.shorthandTag?
  if startsBlank q.rest || (flow && startsFlow q.rest) then some (name, q) else none

/-! ### Directives -/

/-- A number of at most nine digits. -/
def versionNumber? (p : Cursor) : Option Cursor :=
  let (digits, q) := p.take Char.isDigit
  if digits.isEmpty || 9 < digits.length then none else some q

/-- The version of the language. -/
def versionValue? (p : Cursor) : Option (Token × Cursor) := do
  let q ← (p.take isBlank).2.versionNumber?
  let r ← if q.rest.head? = some '.' then q.next.versionNumber? else none
  some (.version, r)

/-- What a handle of tags stands for: a local tag, or any other one. -/
def tagHandleValue? (p : Cursor) : Option (Token × Cursor) := do
  let (handle, q) ← (p.take isBlank).2.tagHandle?
  if handle ≠ "!" && handle.toList.getLast? ≠ some '!' then none
  else
    let q := (q.take isBlank).2
    let (expansion, r) ←
      if q.rest.head? = some '!' then
        (q.next.locator? isLocatorChar).map fun (word, r) => ("!" ++ word, r)
      else if q.rest.head?.any isTagChar then q.locator? isLocatorChar
      else none
    if startsBlank r.rest then some (.tagHandle handle expansion, r) else none

/-- A line that begins with a percent sign, and the start of the next line. A directive that is not
known says nothing. -/
def directive? (p : Cursor) : Option (Token × Cursor) := do
  let (name, q) := p.next.take isWordChar
  if name.isEmpty || !startsBlank q.rest then none
  else
    let (token, r) ←
      if name = "YAML" then q.versionValue?
      else if name = "TAG" then q.tagHandleValue?
      else some (.tagHandle "" "", q.skipComment)
    let s ← r.finishLine
    if s.atBreak then some (token, s.next) else none

end Cursor

end WorkQueue.Yaml
