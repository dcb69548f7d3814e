import WorkQueue.Binary64.Reader
import WorkQueue.Settings.Tree
import WorkQueue.Timestamp.Calendar
import WorkQueue.Timestamp.Text

/-!
# Scalars of TOML texts

Texts in four kinds of quotes, numbers, and dates and times, which settings see as texts.

## Main definitions

* `Settings.Toml.readText?`: a text in quotes
* `Settings.Toml.readNumber?`: a number
* `Settings.Toml.readMoment?`: a date, a time, or both
-/

namespace WorkQueue.Settings.Toml

/-! ### Characters -/

/-- Blanks inside a line. -/
def isBlank (c : Char) : Bool := c = ' ' || c = '\t'

def dropBlanks (cs : List Char) : List Char := cs.dropWhile isBlank

/-- A character that may stand in comments and texts. -/
def isShown (c : Char) : Bool := c = '\t' || (0x20 ≤ c.toNat && c.toNat ≠ 0x7F)

/-- The text after a line break at its head. -/
def dropBreak? : List Char → Option (List Char)
  | '\n' :: cs => some cs
  | '\r' :: '\n' :: cs => some cs
  | _ => none

/-! ### Texts -/

/-- The character that is spelled by a number of hexadecimal digits. -/
def codePoint? (count : Nat) (cs : List Char) : Option (Char × List Char) :=
  if cs.length < count then none
  else
    match Text.natural? 16 (cs.take count) with
    | none => none
    | some n => if n.isValidChar then some (Char.ofNat n, cs.drop count) else none

/-- The character that an escape stands for, its backslash taken. -/
def escape? : List Char → Option (Char × List Char)
  | 'b' :: cs => some ('\x08', cs)
  | 't' :: cs => some ('\t', cs)
  | 'n' :: cs => some ('\n', cs)
  | 'f' :: cs => some ('\x0c', cs)
  | 'r' :: cs => some ('\r', cs)
  | '"' :: cs => some ('"', cs)
  | '\\' :: cs => some ('\\', cs)
  | 'u' :: cs => codePoint? 4 cs
  | 'U' :: cs => codePoint? 8 cs
  | _ => none

/-- The characters up to the closing quote of a text on one line. Only in double quotes are there
escapes. -/
def lineText? (quote : Char) : Nat → List Char → List Char → Option (String × List Char)
  | 0, _, _ => none
  | _ + 1, _, [] => none
  | fuel + 1, acc, c :: cs =>
    if c = quote then some (String.ofList acc.reverse, cs)
    else if c = '\\' && quote = '"' then
      match escape? cs with
      | none => none
      | some (d, rest) => lineText? quote fuel (d :: acc) rest
    else if isShown c then lineText? quote fuel (c :: acc) cs
    else none

/-- The text after blanks and line breaks, at least one of which is a line break. -/
def dropLines? (cs : List Char) : Option (List Char) :=
  (dropBreak? (dropBlanks cs)).map fun rest =>
    rest.dropWhile fun c => isBlank c || c = '\n' || c = '\r'

/-- The number of quotes at the head of a text. -/
def countQuotes (quote : Char) (cs : List Char) : Nat := (cs.takeWhile (· = quote)).length

/-- The characters up to the three closing quotes of a text on several lines. Up to two more quotes
before them belong to the text. -/
def blockText? (quote : Char) : Nat → List Char → List Char → Option (String × List Char)
  | 0, _, _ => none
  | _ + 1, _, [] => none
  | fuel + 1, acc, c :: cs =>
    if c = quote then
      let count := countQuotes quote (c :: cs)
      let rest := (c :: cs).drop count
      let inner := if count < 3 then count else count - 3
      let acc := List.replicate inner quote ++ acc
      if count < 3 then blockText? quote fuel acc rest
      else if count ≤ 5 then some (String.ofList acc.reverse, rest)
      else none
    else if c = '\\' && quote = '"' then
      match dropLines? cs with
      | some rest => blockText? quote fuel acc rest
      | none =>
        match escape? cs with
        | none => none
        | some (d, rest) => blockText? quote fuel (d :: acc) rest
    else
      match dropBreak? (c :: cs) with
      | some rest => blockText? quote fuel ('\n' :: acc) rest
      | none => if isShown c then blockText? quote fuel (c :: acc) cs else none

/-- A text in one pair of quotes. -/
def readLineText? : List Char → Option (String × List Char)
  | '"' :: cs => lineText? '"' (cs.length + 1) [] cs
  | '\'' :: cs => lineText? '\'' (cs.length + 1) [] cs
  | _ => none

/-- A text in one or three pairs of quotes. A line break right after three quotes does not count. -/
def readText? (cs : List Char) : Option (String × List Char) :=
  match cs with
  | a :: b :: c :: rest =>
    if (a = '"' || a = '\'') && b = a && c = a then
      let rest := (dropBreak? rest).getD rest
      blockText? a (rest.length + 1) [] rest
    else readLineText? cs
  | _ => readLineText? cs

/-! ### Numbers -/

/-- The digits at the head of a text, single low lines between them left out. -/
def takeDigits (ok : Char → Bool) : List Char → List Char × List Char
  | c :: '_' :: d :: cs =>
    if ok c && ok d then
      let (digits, rest) := takeDigits ok (d :: cs)
      (c :: digits, rest)
    else if ok c then ([c], '_' :: d :: cs) else ([], c :: '_' :: d :: cs)
  | c :: cs =>
    if ok c then
      let (digits, rest) := takeDigits ok cs
      (c :: digits, rest)
    else ([], c :: cs)
  | [] => ([], [])

/-- A whole number in another base than ten. -/
def readBased? (base : Nat) (cs : List Char) : Option (Tree × List Char) :=
  let (digits, rest) := takeDigits (fun c => (Text.digit? base c).isSome) cs
  (Text.word? base digits).map fun n => (.integer n, rest)

/-- The digits after a point or an exponent sign, zeros in front included. -/
def takeTail? (cs : List Char) : Option (List Char × List Char) :=
  let (digits, rest) := takeDigits Char.isDigit cs
  if digits.isEmpty then none else some (digits, rest)

/-- A point and the digits after it, if a point follows. -/
def takeFraction? : List Char → Option (List Char × List Char)
  | '.' :: cs => (takeTail? cs).map fun (digits, rest) => ('.' :: digits, rest)
  | cs => some ([], cs)

/-- An exponent, if its sign follows. -/
def takeExponent? : List Char → Option (List Char × List Char)
  | [] => some ([], [])
  | c :: cs =>
    if c = 'e' || c = 'E' then
      let sign := cs.takeWhile fun d => d = '+' || d = '-'
      if 1 < sign.length then none
      else (takeTail? (cs.drop sign.length)).map fun (digits, rest) =>
        ('e' :: sign ++ digits, rest)
    else some ([], c :: cs)

/-- A number in base ten, its sign taken. One without a point and an exponent is whole and has to
fit 64 bits, and no other may be too large. -/
def readDecimal? (sign cs : List Char) : Option (Tree × List Char) := do
  let (whole, rest) := takeDigits Char.isDigit cs
  if whole.isEmpty || (whole.head? = some '0' && 1 < whole.length) then none
  else
    let (fraction, rest) ← takeFraction? rest
    let (exponent, rest) ← takeExponent? rest
    if fraction.isEmpty && exponent.isEmpty then
      (Text.word? 10 (sign ++ whole)).map fun n => (.integer n, rest)
    else
      let x ← Binary64.ofText? (String.ofList (sign ++ whole ++ fraction ++ exponent))
      if x.isInfinite && !x.negative then none else some (.binary x, rest)

/-- Infinity or no number, its sign taken. -/
def readSpecial? (negative : Bool) : List Char → Option (Tree × List Char)
  | 'i' :: 'n' :: 'f' :: cs =>
    (Binary64.ofText? (if negative then "-inf" else "inf")).map fun x => (.binary x, cs)
  | 'n' :: 'a' :: 'n' :: cs => (Binary64.ofText? "nan").map fun x => (.binary x, cs)
  | _ => none

/-- A number. -/
def readNumber? (cs : List Char) : Option (Tree × List Char) :=
  match cs with
  | '0' :: 'x' :: rest => readBased? 16 rest
  | '0' :: 'o' :: rest => readBased? 8 rest
  | '0' :: 'b' :: rest => readBased? 2 rest
  | '+' :: rest => (readSpecial? false rest).or (readDecimal? [] rest)
  | '-' :: rest => (readSpecial? true rest).or (readDecimal? ['-'] rest)
  | _ => (readSpecial? false cs).or (readDecimal? [] cs)

/-! ### Dates and times -/

/-- A number of exactly `count` digits within bounds. -/
def takeField? (count lo hi : Nat) (cs : List Char) : Option (Nat × List Char) :=
  let digits := cs.take count
  if digits.length = count && digits.all Char.isDigit then
    let n := Binary64.digitsValue digits
    if lo ≤ n ∧ n ≤ hi then some (n, cs.drop count) else none
  else none

/-- Drops an expected character. -/
def expect? (c : Char) : List Char → Option (List Char)
  | d :: cs => if d = c then some cs else none
  | [] => none

/-- The text of a date, and the text after it. -/
def readDate? (cs : List Char) : Option (String × List Char) := do
  let (year, cs) ← takeField? 4 0 9999 cs
  let (month, cs) ← takeField? 2 1 12 (← expect? '-' cs)
  let (day, cs) ← takeField? 2 1 31 (← expect? '-' cs)
  let date : Calendar.Date := ⟨year, month, day⟩
  if date.exists? then
    let pad := Timestamp.padded
    some (pad 4 year ++ "-" ++ pad 2 month ++ "-" ++ pad 2 day, cs)
  else none

/-- The nanoseconds of a fraction as the shortest text, without its point. -/
def trimZeros (digits : List Char) : List Char :=
  (digits.reverse.dropWhile (· = '0')).reverse

/-- The text of a time of day, with at most nine digits after the point. -/
def readTime? (cs : List Char) : Option (String × List Char) := do
  let (hour, cs) ← takeField? 2 0 23 cs
  let (minute, cs) ← takeField? 2 0 59 (← expect? ':' cs)
  let (second, cs) ← takeField? 2 0 60 (← expect? ':' cs)
  let pad := Timestamp.padded 2
  let whole := pad hour ++ ":" ++ pad minute ++ ":" ++ pad second
  match cs with
  | '.' :: rest =>
    let digits := rest.takeWhile Char.isDigit
    if digits.isEmpty then none
    else
      let kept := trimZeros (digits.take 9)
      let fraction := if kept.isEmpty then "" else "." ++ String.ofList kept
      some (whole ++ fraction, rest.drop digits.length)
  | cs => some (whole, cs)

/-- The text of an offset, empty if there is none. -/
def readOffset? : List Char → Option (String × List Char)
  | [] => some ("", [])
  | c :: cs =>
    if c = 'Z' || c = 'z' then some ("Z", cs)
    else if c = '+' || c = '-' then do
      let (hour, cs) ← takeField? 2 0 23 cs
      let (minute, cs) ← takeField? 2 0 59 (← expect? ':' cs)
      let sign := if c = '-' && 0 < hour + minute then "-" else "+"
      some (sign ++ Timestamp.padded 2 hour ++ ":" ++ Timestamp.padded 2 minute, cs)
    else some ("", c :: cs)

/-- The text of a date, a time, or both; nothing when the text starts with neither. -/
def readMoment? (cs : List Char) : Option (Option (Tree × List Char)) :=
  let starts (count : Nat) (mark : Char) : Bool :=
    (cs.take count).all Char.isDigit && (cs.drop count).head? = some mark
  if starts 4 '-' then do
    let (date, rest) ← readDate? cs
    match rest with
    | [] => some (some (.text date, []))
    | c :: more =>
      let timed := c = 'T' || c = 't' || c = ' '
      if timed && (more.take 2).all Char.isDigit && (more.drop 2).head? = some ':' then do
        let (time, rest) ← readTime? more
        let (offset, rest) ← readOffset? rest
        some (some (.text (date ++ "T" ++ time ++ offset), rest))
      else some (some (.text date, rest))
  else if starts 2 ':' then do
    let (time, rest) ← readTime? cs
    some (some (.text time, rest))
  else some none

end WorkQueue.Settings.Toml
