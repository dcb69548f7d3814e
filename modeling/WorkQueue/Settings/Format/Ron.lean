import WorkQueue.Binary64.Reader
import WorkQueue.Settings.Tree
import WorkQueue.Text.Blank

/-!
# Reading RON texts

A RON text holds numbers, texts, lists in brackets, maps in braces, and structures in parentheses
with or without names for their fields.

## Main definitions

* `Settings.Ron.read?`: the value of a text
-/

namespace WorkQueue.Settings.Ron

/-! ### Blanks and comments -/

/-- The text after the end of a comment in which `depth` more ones are open. -/
def dropComment? : Nat → List Char → Option (List Char)
  | depth, '/' :: '*' :: cs => dropComment? (depth + 1) cs
  | 0, '*' :: '/' :: cs => some cs
  | depth + 1, '*' :: '/' :: cs => dropComment? depth cs
  | depth, _ :: cs => dropComment? depth cs
  | _, [] => none

/-- The text after blanks and comments. A comment that does not end is none. -/
def skipFrom : Nat → List Char → List Char
  | 0, cs => cs
  | fuel + 1, cs =>
    match cs with
    | '/' :: '/' :: rest => skipFrom fuel (rest.dropWhile fun c => c ≠ '\n')
    | '/' :: '*' :: rest =>
      match dropComment? 0 rest with
      | some rest => skipFrom fuel rest
      | none => cs
    | c :: rest => if Text.isBlankChar c then skipFrom fuel rest else cs
    | [] => []

@[inherit_doc skipFrom]
def skip (cs : List Char) : List Char := skipFrom (cs.length + 1) cs

/-- Drops an expected character after blanks. -/
def expect? (c : Char) (cs : List Char) : Option (List Char) :=
  match skip cs with
  | d :: rest => if d = c then some rest else none
  | [] => none

/-- Drops a comma after blanks, if one is there. -/
def dropComma (cs : List Char) : List Char := (expect? ',' cs).getD cs

/-! ### Texts -/

/-- The character of a code in hexadecimal digits. -/
def charOf? (digits : List Char) : Option Char :=
  (Text.natural? 16 digits).bind fun n => if n.isValidChar then some (Char.ofNat n) else none

/-- The character that an escape stands for, its backslash taken. -/
def escape? : List Char → Option (Char × List Char)
  | '\'' :: cs => some ('\'', cs)
  | '"' :: cs => some ('"', cs)
  | '\\' :: cs => some ('\\', cs)
  | 'n' :: cs => some ('\n', cs)
  | 'r' :: cs => some ('\r', cs)
  | 't' :: cs => some ('\t', cs)
  | '0' :: cs => some ('\x00', cs)
  | 'x' :: a :: b :: cs => (charOf? [a, b]).map fun c => (c, cs)
  | 'u' :: '\x7b' :: cs =>
    let digits := cs.takeWhile fun c => c ≠ '\x7d'
    if 6 < digits.length then none
    else (charOf? digits).map fun c => (c, cs.drop (digits.length + 1))
  | _ => none

/-- The characters up to the closing quote. -/
def readText? : Nat → List Char → List Char → Option (String × List Char)
  | 0, _, _ => none
  | _ + 1, _, [] => none
  | fuel + 1, acc, c :: cs =>
    if c = '"' then some (String.ofList acc.reverse, cs)
    else if c = '\\' then
      match escape? cs with
      | none => none
      | some (d, rest) => readText? fuel (d :: acc) rest
    else readText? fuel (c :: acc) cs

/-- The characters up to a quote and the closing marks after it. -/
def readRaw? (closing : List Char) : List Char → List Char → Option (String × List Char)
  | _, [] => none
  | acc, c :: cs =>
    if closing.isPrefixOf (c :: cs) then
      some (String.ofList acc.reverse, (c :: cs).drop closing.length)
    else readRaw? closing (c :: acc) cs

/-- A text in quotes, with escapes, or with the letter `r` before it and none. -/
def readQuoted? : List Char → Option (String × List Char)
  | '"' :: cs => readText? (cs.length + 1) [] cs
  | 'r' :: cs =>
    let marks := cs.takeWhile (· = '#')
    match cs.drop marks.length with
    | '"' :: rest => readRaw? ('"' :: marks) [] rest
    | _ => none
  | _ => none

/-- A character in single quotes. -/
def readChar? : List Char → Option (String × List Char)
  | '\'' :: '\\' :: cs =>
    match escape? cs with
    | some (c, '\'' :: rest) => some (String.singleton c, rest)
    | _ => none
  | '\'' :: c :: '\'' :: rest => some (String.singleton c, rest)
  | _ => none

/-! ### Names and numbers -/

def isNameStart (c : Char) : Bool := c.isAlpha || c = '_' || 0x80 ≤ c.toNat && !Text.isBlankChar c

def isNameChar (c : Char) : Bool := isNameStart c || c.isDigit

/-- A name, which may be marked by `r#`. -/
def readName? (cs : List Char) : Option (String × List Char) :=
  let cs := match cs with
    | 'r' :: '#' :: rest => if rest.head?.any isNameStart then rest else cs
    | _ => cs
  match cs with
  | 'r' :: '"' :: _ => none
  | 'r' :: '#' :: _ => none
  | c :: _ =>
    if isNameStart c then
      let name := cs.takeWhile isNameChar
      some (String.ofList name, cs.drop name.length)
    else none
  | [] => none

/-- An integer, or a floating-point number when it does not fit 64 bits. -/
def wholeNumber (n : Int) : Tree :=
  match IntRange.int64.keep? n with
  | some n => .integer n
  | none => .binary (.ofInt n)

/-- A whole number in another base than ten, its mark taken. -/
def readBased? (negative : Bool) (base : Nat) (cs : List Char) : Option (Tree × List Char) :=
  let digits := cs.takeWhile fun c => (Text.digit? base c).isSome || c = '_'
  if digits.head? = some '_' then none
  else
    (Text.natural? base (digits.filter (· ≠ '_'))).map fun n =>
      (wholeNumber (if negative then -(n : Int) else n), cs.drop digits.length)

/-- A number in base ten, its sign taken. Low lines between digits do not count. -/
def readDecimal? (sign cs : List Char) : Option (Tree × List Char) :=
  let isPart (c : Char) : Bool := c.isDigit || c = '_' || c = '.' || c = 'e' || c = 'E'
  let body := cs.takeWhile isPart
  let rest := cs.drop body.length
  let exponent := body.getLast?.any fun c => c = 'e' || c = 'E'
  let (body, rest) := match rest with
    | c :: more =>
      if exponent && (c = '+' || c = '-') then
        let digits := more.takeWhile fun (d : Char) => d.isDigit || d = '_'
        (body ++ c :: digits, more.drop digits.length)
      else (body, rest)
    | [] => (body, rest)
  let spelling := body.filter (· ≠ '_')
  if body.isEmpty || body.head? = some '_' then none
  else if spelling.all Char.isDigit then
    (Text.natural? 10 spelling).map fun n =>
      (wholeNumber (if sign = ['-'] then -(n : Int) else n), rest)
  else (Binary64.ofText? (String.ofList (sign ++ spelling))).map fun x => (.binary x, rest)

/-- A number, its sign taken. -/
def readSigned? (sign cs : List Char) : Option (Tree × List Char) :=
  let special (spelling rest : List Char) : Option (Tree × List Char) :=
    (Binary64.ofText? (String.ofList (sign ++ spelling))).map fun x => (.binary x, rest)
  match cs with
  | 'i' :: 'n' :: 'f' :: rest => special ['i', 'n', 'f'] rest
  | 'N' :: 'a' :: 'N' :: rest => special ['n', 'a', 'n'] rest
  | '0' :: 'x' :: rest => readBased? (sign = ['-']) 16 rest
  | '0' :: 'o' :: rest => readBased? (sign = ['-']) 8 rest
  | '0' :: 'b' :: rest => readBased? (sign = ['-']) 2 rest
  | _ => readDecimal? sign cs

/-- A number. -/
def readNumber? (cs : List Char) : Option (Tree × List Char) :=
  match cs with
  | '+' :: rest => readSigned? ['+'] rest
  | '-' :: rest => readSigned? ['-'] rest
  | _ => readSigned? [] cs

/-! ### Values -/

/-- The parenthesis that has been opened holds fields with names. -/
def hasFields (cs : List Char) : Bool :=
  match readName? (skip cs) with
  | some (_, rest) => (expect? ':' rest).isSome
  | none => false

mutual

/-- A value, in which `depth` values may stand inside each other. A name without parentheses says
nothing. -/
def readValue? : Nat → Nat → List Char → Option (Tree × List Char)
  | 0, _, _ => none
  | fuel + 1, depth, cs =>
    match cs with
    | '(' :: ')' :: rest => some (.null, rest)
    | '(' :: rest => readBody? fuel depth rest
    | '[' :: rest => readItems? fuel depth ']' [] rest
    | '\x7b' :: rest => readEntries? fuel depth [] rest
    | '"' :: _ => (readQuoted? cs).map fun (s, rest) => (.text s, rest)
    | '\'' :: _ => (readChar? cs).map fun (s, rest) => (.text s, rest)
    | _ =>
      match readName? cs with
      | none => ((readQuoted? cs).map fun (s, rest) => (Tree.text s, rest)).or (readNumber? cs)
      | some (name, rest) =>
        if name = "true" then some (.bool true, rest)
        else if name = "false" then some (.bool false, rest)
        else if name = "None" then some (.null, rest)
        else if name = "inf" || name = "NaN" then readNumber? cs
        else if name = "Some" then
          match expect? '(' rest with
          | none => none
          | some inner =>
            match readInner? fuel depth (skip inner) with
            | none => none
            | some (v, rest) => (expect? ')' (dropComma rest)).map fun rest => (v, rest)
        else
          match expect? '(' rest with
          | none => some (.null, rest)
          | some inner => readBody? fuel depth inner

/-- A value inside one in which `depth` values may stand inside each other. -/
def readInner? : Nat → Nat → List Char → Option (Tree × List Char)
  | 0, _, _ => none
  | fuel + 1, depth, cs => if depth = 0 then none else readValue? fuel (depth - 1) cs

/-- What an open parenthesis holds: fields with names, or items. -/
def readBody? : Nat → Nat → List Char → Option (Tree × List Char)
  | 0, _, _ => none
  | fuel + 1, depth, cs =>
    if hasFields cs then readFields? fuel depth [] cs else readItems? fuel depth ')' [] cs

/-- Items up to the closing sign. -/
def readItems? : Nat → Nat → Char → List Tree → List Char → Option (Tree × List Char)
  | 0, _, _, _, _ => none
  | fuel + 1, depth, closing, acc, cs =>
    match expect? closing cs with
    | some rest => some (.list acc.reverse, rest)
    | none =>
      match readInner? fuel depth (skip cs) with
      | none => none
      | some (item, rest) =>
        match expect? ',' rest with
        | some rest => readItems? fuel depth closing (item :: acc) rest
        | none => (expect? closing rest).map fun rest => (.list (item :: acc).reverse, rest)

/-- Fields with names up to the closing parenthesis; the last of several with one name counts. -/
def readFields? : Nat → Nat → Table → List Char → Option (Tree × List Char)
  | 0, _, _, _ => none
  | fuel + 1, depth, t, cs =>
    match expect? ')' cs with
    | some rest => some (.table t, rest)
    | none =>
      match readName? (skip cs) with
      | none => none
      | some (name, rest) =>
        match expect? ':' rest with
        | none => none
        | some rest =>
          match readInner? fuel depth (skip rest) with
          | none => none
          | some (v, rest) =>
            match expect? ',' rest with
            | some rest => readFields? fuel depth (t.replace name v) rest
            | none => (expect? ')' rest).map fun rest => (.table (t.replace name v), rest)

/-- Entries up to the closing brace, each with a text before its colon; the last of several with one
text counts. -/
def readEntries? : Nat → Nat → Table → List Char → Option (Tree × List Char)
  | 0, _, _, _ => none
  | fuel + 1, depth, t, cs =>
    match expect? '\x7d' cs with
    | some rest => some (.table t, rest)
    | none =>
      match readInner? fuel depth (skip cs) with
      | some (.text name, rest) =>
        match expect? ':' rest with
        | none => none
        | some rest =>
          match readInner? fuel depth (skip rest) with
          | none => none
          | some (v, rest) =>
            match expect? ',' rest with
            | some rest => readEntries? fuel depth (t.replace name v) rest
            | none => (expect? '\x7d' rest).map fun rest => (.table (t.replace name v), rest)
      | _ => none

end

/-! ### Extensions -/

/-- The names of the extensions. -/
def extensionNames : List String :=
  ["unwrap_newtypes", "implicit_some", "unwrap_variant_newtypes"]

/-- The text after the names of extensions and the closing parenthesis. -/
def dropNames? : Nat → List Char → Option (List Char)
  | 0, _ => none
  | fuel + 1, cs =>
    match readName? (skip cs) with
    | none => none
    | some (name, rest) =>
      if !extensionNames.contains name then none
      else
        match expect? ',' rest with
        | some more =>
          match expect? ')' more with
          | some rest => some rest
          | none => dropNames? fuel more
        | none => expect? ')' rest

/-- The text after the lines that enable extensions. -/
def dropExtensions? : Nat → List Char → Option (List Char)
  | 0, _ => none
  | fuel + 1, cs =>
    match skip cs with
    | '#' :: rest => do
      let rest ← expect? '!' rest
      let rest ← expect? '[' rest
      let (word, rest) ← readName? (skip rest)
      let rest ← if word = "enable" then expect? '(' rest else none
      let rest ← dropNames? (rest.length + 1) rest
      let rest ← expect? ']' rest
      dropExtensions? fuel rest
    | rest => some rest

/-- How many values may stand inside each other in a value. -/
def maxDepth : Nat := 128

/-- The value of a text. -/
def read? (s : String) : Option Tree :=
  let cs := s.toList
  match dropExtensions? (cs.length + 1) cs with
  | none => none
  | some cs =>
    match readValue? (4 * cs.length + 4) maxDepth cs with
    | none => none
    | some (v, rest) => if (skip rest).isEmpty then some v else none

end WorkQueue.Settings.Ron
