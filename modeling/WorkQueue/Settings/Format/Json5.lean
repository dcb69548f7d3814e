import WorkQueue.Binary64.Reader
import WorkQueue.Settings.Tree
import WorkQueue.Text.Blank

/-!
# Reading JSON5 texts

JSON with comments, names without quotes, single quotes, commas after the last item, and more forms
of numbers.

## Main definitions

* `Settings.Json5.read?`: the value of a text
-/

namespace WorkQueue.Settings.Json5

/-! ### Blanks and comments -/

def isBreak (c : Char) : Bool := c = '\n' || c = '\r' || c = '\u2028' || c = '\u2029'

def isSpace (c : Char) : Bool := c = '\ufeff' || (Text.isBlankChar c && c ≠ '\u0085')

/-- The text after the end of a comment of several lines. -/
def dropComment? : List Char → Option (List Char)
  | '*' :: '/' :: cs => some cs
  | _ :: cs => dropComment? cs
  | [] => none

/-- The text after blanks and comments. A comment that does not end is none. -/
def skipFrom : Nat → List Char → List Char
  | 0, cs => cs
  | fuel + 1, cs =>
    match cs with
    | '/' :: '/' :: rest => skipFrom fuel (rest.dropWhile fun c => !isBreak c)
    | '/' :: '*' :: rest =>
      match dropComment? rest with
      | some rest => skipFrom fuel rest
      | none => cs
    | c :: rest => if isSpace c then skipFrom fuel rest else cs
    | [] => []

@[inherit_doc skipFrom]
def skip (cs : List Char) : List Char := skipFrom (cs.length + 1) cs

/-! ### Texts -/

/-- The code that a number of hexadecimal digits spell. -/
def readCode? (count : Nat) (cs : List Char) : Option (Nat × List Char) :=
  if cs.length < count then none
  else (Text.natural? 16 (cs.take count)).map fun n => (n, cs.drop count)

/-- The character of a code unit, or of two that are a pair. -/
def readUnicode? (cs : List Char) : Option (Char × List Char) := do
  let (u, rest) ← readCode? 4 cs
  if 0xD800 ≤ u ∧ u < 0xDC00 then
    match rest with
    | '\\' :: 'u' :: more =>
      let (v, rest) ← readCode? 4 more
      if 0xDC00 ≤ v ∧ v < 0xE000 then
        some (Char.ofNat (0x10000 + (u - 0xD800) * 0x400 + (v - 0xDC00)), rest)
      else none
    | _ => none
  else if u.isValidChar then some (Char.ofNat u, rest) else none

/-- The character of an escape, if it stands for one. An escaped line break stands for nothing, and
a digit other than zero is no escape. -/
def escape? : List Char → Option (Option Char × List Char)
  | [] => none
  | 'b' :: cs => some ('\x08', cs)
  | 'f' :: cs => some ('\x0c', cs)
  | 'n' :: cs => some ('\n', cs)
  | 'r' :: cs => some ('\r', cs)
  | 't' :: cs => some ('\t', cs)
  | 'v' :: cs => some ('\x0b', cs)
  | '0' :: cs => some ('\x00', cs)
  | 'x' :: cs => (readCode? 2 cs).map fun (n, rest) => (Char.ofNat n, rest)
  | 'u' :: cs => (readUnicode? cs).map fun (c, rest) => (c, rest)
  | '\r' :: '\n' :: cs => some (none, cs)
  | c :: cs => if c.isDigit then none else if isBreak c then some (none, cs) else some (c, cs)

/-- The characters up to the closing quote. -/
def readText? (quote : Char) : Nat → List Char → List Char → Option (String × List Char)
  | 0, _, _ => none
  | _ + 1, _, [] => none
  | fuel + 1, acc, c :: cs =>
    if c = quote then some (String.ofList acc.reverse, cs)
    else if c = '\\' then
      match escape? cs with
      | none => none
      | some (d, rest) => readText? quote fuel (d.toList ++ acc) rest
    else if c = '\n' || c = '\r' then none
    else readText? quote fuel (c :: acc) cs

/-- Letters, and the characters beyond ASCII that are no blanks. -/
def isNameStart (c : Char) : Bool :=
  c.isAlpha || c = '$' || c = '_' || (0x80 ≤ c.toNat && !isSpace c)

/-- The rest of a name without quotes, after the characters in `acc`. A character may be spelled by
its code. -/
def readBare? : Nat → List Char → List Char → Option (String × List Char)
  | 0, _, _ => none
  | fuel + 1, acc, cs =>
    match cs with
    | '\\' :: 'u' :: rest =>
      match readUnicode? rest with
      | none => none
      | some (c, rest) => readBare? fuel (c :: acc) rest
    | c :: rest =>
      if isNameStart c || (c.isDigit && !acc.isEmpty) then readBare? fuel (c :: acc) rest
      else if acc.isEmpty then none
      else some (String.ofList acc.reverse, cs)
    | [] => none

/-- A name, in quotes or without. -/
def readName? (cs : List Char) : Option (String × List Char) :=
  match cs with
  | [] => none
  | c :: rest =>
    if c = '"' || c = '\'' then readText? c (rest.length + 1) [] rest
    else readBare? (cs.length + 1) [] cs

/-! ### Numbers -/

/-- The digits after a point or an exponent sign, with that sign in front. -/
def takePart (sign cs : List Char) : List Char × List Char :=
  let digits := cs.takeWhile Char.isDigit
  (sign ++ digits, cs.drop digits.length)

/-- The exponent at the head of a text, empty if there is none. -/
def takeExponent? : List Char → Option (List Char × List Char)
  | [] => some ([], [])
  | c :: cs =>
    if c = 'e' || c = 'E' then
      let sign := cs.takeWhile fun d => d = '+' || d = '-'
      let rest := cs.drop sign.length
      if 1 < sign.length || !rest.head?.any Char.isDigit then none
      else some (takePart ('e' :: sign) rest)
    else some ([], c :: cs)

/-- A number in base ten, its sign taken. One without a point and an exponent has to fit 64 bits,
and no other may be too large. -/
def readDecimal? (sign cs : List Char) : Option (Tree × List Char) := do
  let (whole, rest) := takePart [] cs
  let (fraction, rest) := match rest with
    | '.' :: more => takePart ['.'] more
    | _ => ([], rest)
  let (exponent, rest) ← takeExponent? rest
  let padded := whole.head? = some '0' && 1 < whole.length
  if padded || (whole.isEmpty && fraction.length < 2) then none
  else if fraction.isEmpty && exponent.isEmpty then
    (Text.word? 10 (sign ++ whole)).map fun n => (.integer n, rest)
  else
    let x ← Binary64.ofText? (String.ofList (sign ++ whole ++ fraction ++ exponent))
    if x.isInfinite then none else some (.binary x, rest)

/-- A number, its sign taken. With a plus sign there is neither infinity nor its like, and with any
sign no number in base sixteen, which has to fit 32 bits. -/
def readSigned? (sign cs : List Char) : Option (Tree × List Char) :=
  let special (spelling : List Char) (rest : List Char) : Option (Tree × List Char) :=
    if sign = ['+'] then none
    else (Binary64.ofText? (String.ofList (sign ++ spelling))).map fun x => (.binary x, rest)
  match cs with
  | 'I' :: 'n' :: 'f' :: 'i' :: 'n' :: 'i' :: 't' :: 'y' :: rest => special ['i', 'n', 'f'] rest
  | 'N' :: 'a' :: 'N' :: rest => special ['n', 'a', 'n'] rest
  | '0' :: x :: rest =>
    if x = 'x' || x = 'X' then
      let digits := rest.takeWhile fun c => (Text.digit? 16 c).isSome
      match Text.natural? 16 digits with
      | none => none
      | some n =>
        if sign.isEmpty && n < UInt32.size then some (.integer n, rest.drop digits.length) else none
    else readDecimal? sign cs
  | _ => readDecimal? sign cs

/-- A number. -/
def readNumber? (cs : List Char) : Option (Tree × List Char) :=
  match cs with
  | '+' :: rest => readSigned? ['+'] rest
  | '-' :: rest => readSigned? ['-'] rest
  | _ => readSigned? [] cs

/-! ### Values -/

mutual

/-- A value. -/
def readValue? : Nat → List Char → Option (Tree × List Char)
  | 0, _ => none
  | fuel + 1, cs =>
    match cs with
    | '\x7b' :: rest => readEntries? fuel [] (skip rest)
    | '[' :: rest => readItems? fuel [] (skip rest)
    | '"' :: rest =>
      (readText? '"' (rest.length + 1) [] rest).map fun (s, rest) => (.text s, rest)
    | '\'' :: rest =>
      (readText? '\'' (rest.length + 1) [] rest).map fun (s, rest) => (.text s, rest)
    | 'n' :: 'u' :: 'l' :: 'l' :: rest => some (.null, rest)
    | 't' :: 'r' :: 'u' :: 'e' :: rest => some (.bool true, rest)
    | 'f' :: 'a' :: 'l' :: 's' :: 'e' :: rest => some (.bool false, rest)
    | _ => readNumber? cs

/-- The items of a list up to its closing bracket. -/
def readItems? : Nat → List Tree → List Char → Option (Tree × List Char)
  | 0, _, _ => none
  | fuel + 1, acc, cs =>
    match cs with
    | ']' :: rest => some (.list acc.reverse, rest)
    | _ =>
      match readValue? fuel cs with
      | none => none
      | some (item, rest) =>
        match skip rest with
        | ',' :: rest => readItems? fuel (item :: acc) (skip rest)
        | ']' :: rest => some (.list (item :: acc).reverse, rest)
        | _ => none

/-- The entries of a table up to its closing brace; the last of several with one name counts. -/
def readEntries? : Nat → Table → List Char → Option (Tree × List Char)
  | 0, _, _ => none
  | fuel + 1, t, cs =>
    match cs with
    | '\x7d' :: rest => some (.table t, rest)
    | _ =>
      match readName? cs with
      | none => none
      | some (name, rest) =>
        match skip rest with
        | ':' :: rest =>
          match readValue? fuel (skip rest) with
          | none => none
          | some (v, rest) =>
            match skip rest with
            | ',' :: rest => readEntries? fuel (t.replace name v) (skip rest)
            | '\x7d' :: rest => some (.table (t.replace name v), rest)
            | _ => none
        | _ => none

end

/-- The value of a text. -/
def read? (s : String) : Option Tree :=
  let cs := s.toList
  match readValue? (2 * cs.length + 2) (skip cs) with
  | none => none
  | some (v, rest) => if (skip rest).isEmpty then some v else none

end WorkQueue.Settings.Json5
