import WorkQueue.Json
import WorkQueue.Binary64.Shortest

/-!
# Writing JSON text

Two layouts of JSON texts: one line without blanks, and one member or item per line with two
spaces for each level.

## Main definitions

* `Json.render`: the text on one line
* `Json.renderPretty`: the indented text
-/

namespace WorkQueue.Json

/-- The lowercase hexadecimal digit of a number below sixteen. -/
def hexDigit (n : Nat) : Char :=
  if n < 10 then Char.ofNat ('0'.toNat + n) else Char.ofNat ('a'.toNat + (n - 10))

/-- A character inside a quoted text: quotes, backslashes and control characters are escaped. -/
def quoteChar (c : Char) : List Char :=
  if c = '"' then ['\\', '"']
  else if c = '\\' then ['\\', '\\']
  else if c = '\n' then ['\\', 'n']
  else if c = '\r' then ['\\', 'r']
  else if c = '\t' then ['\\', 't']
  else if c = '\x08' then ['\\', 'b']
  else if c = '\x0c' then ['\\', 'f']
  else if c.toNat < 0x20 then
    ['\\', 'u', '0', '0', hexDigit (c.toNat / 16), hexDigit (c.toNat % 16)]
  else [c]

/-- A text between quotes. -/
def quote (s : String) : String :=
  "\"" ++ String.ofList (s.toList.flatMap quoteChar) ++ "\""

/-- The text of a number; JSON has no text for infinity and for patterns that are not a number. -/
def Number.render : Number → String
  | .integer n => toString n
  | .binary x => if x.isNaN || x.isInfinite then "null" else x.json

mutual

/-- The text on one line, without blanks. -/
def render : Json → String
  | null => "null"
  | bool b => if b then "true" else "false"
  | number n => n.render
  | text s => quote s
  | array items => "[" ++ ",".intercalate (renderItems items) ++ "]"
  | object members => "\x7b" ++ ",".intercalate (renderMembers members) ++ "\x7d"

/-- The texts of the items of an array. -/
def renderItems : List Json → List String
  | [] => []
  | item :: rest => item.render :: renderItems rest

/-- The texts of the members of an object. -/
def renderMembers : List (String × Json) → List String
  | [] => []
  | (k, v) :: rest => (quote k ++ ":" ++ v.render) :: renderMembers rest

end

/-- The start of a line at a level. -/
def newLine (level : Nat) : String :=
  "\n" ++ String.ofList (List.replicate (2 * level) ' ')

mutual

/-- The indented text, its first line at the given level. -/
def renderAt (level : Nat) : Json → String
  | array [] => "[]"
  | array items =>
    "[" ++ ",".intercalate (renderItemsAt (level + 1) items) ++ newLine level ++ "]"
  | object [] => "\x7b\x7d"
  | object members =>
    "\x7b" ++ ",".intercalate (renderMembersAt (level + 1) members) ++ newLine level ++ "\x7d"
  | null => "null"
  | bool b => if b then "true" else "false"
  | number n => n.render
  | text s => quote s

/-- The lines of the items of an array. -/
def renderItemsAt (level : Nat) : List Json → List String
  | [] => []
  | item :: rest => (newLine level ++ item.renderAt level) :: renderItemsAt level rest

/-- The lines of the members of an object. -/
def renderMembersAt (level : Nat) : List (String × Json) → List String
  | [] => []
  | (k, v) :: rest =>
    (newLine level ++ quote k ++ ": " ++ v.renderAt level) :: renderMembersAt level rest

end

/-- The indented text: two spaces for each level, empty containers on one line. -/
def renderPretty (value : Json) : String := value.renderAt 0

end WorkQueue.Json
