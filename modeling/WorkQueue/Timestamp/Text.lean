import WorkQueue.Timestamp
import WorkQueue.Timestamp.Calendar
import WorkQueue.Text.Blank
import WorkQueue.Binary64.Reader

/-!
# Texts of instants

Instants are written as date, `T`, time and offset, with the fewest of 0, 3, 6 or 9 fraction digits
that are exact. The reader also takes blanks around the parts, `t` or a blank for `T`, any offset
up to a day, signed years, and second 60.

## Main definitions

* `Timestamp.toText`: the text with `Z`
* `Timestamp.toOffsetText`: the text with `+00:00`
* `Timestamp.ofText?`: the reader
-/

namespace WorkQueue.Timestamp

/-! ### Writing -/

/-- A natural number with at least `width` digits. -/
def padded (width n : Nat) : String :=
  let digits := toString n
  String.ofList (List.replicate (width - digits.length) '0') ++ digits

/-- Years from 0 to 9999 have four digits, all others a sign and at least four digits. -/
def yearText (year : Int) : String :=
  if 0 ≤ year ∧ year ≤ 9999 then padded 4 year.toNat
  else (if year < 0 then "-" else "+") ++ padded 4 year.natAbs

/-- The fraction of a second in nanoseconds, with its point, or nothing for zero. -/
def fractionText (nano : Nat) : String :=
  if nano = 0 then ""
  else if nano % 1000000 = 0 then "." ++ padded 3 (nano / 1000000)
  else if nano % 1000 = 0 then "." ++ padded 6 (nano / 1000)
  else "." ++ padded 9 nano

/-- Date and time without an offset. -/
def localText (t : Timestamp) : String :=
  let date := Calendar.dateOf (t.second / 86400)
  let ofDay := (t.second % 86400).toNat
  yearText date.year ++ "-" ++ padded 2 date.month ++ "-" ++ padded 2 date.day ++ "T" ++
    padded 2 (ofDay / 3600) ++ ":" ++ padded 2 (ofDay / 60 % 60) ++ ":" ++
    padded 2 (ofDay % 60 + t.nano / 1000000000) ++ fractionText (t.nano % 1000000000)

/-- The text that ends in `Z`. -/
def toText (t : Timestamp) : String := t.localText ++ "Z"

/-- The text that ends in a numeric offset. -/
def toOffsetText (t : Timestamp) : String := t.localText ++ "+00:00"

/-! ### Reading -/

/-- The number that up to `width` digits at the head of a text spell, at least one. -/
def takeNumber? (width : Nat) (cs : List Char) : Option (Nat × List Char) :=
  let digits := (cs.take width).takeWhile Binary64.isDigit
  if digits.isEmpty then none else some (Binary64.digitsValue digits, cs.drop digits.length)

/-- A number after blanks. -/
def takePart? (width : Nat) (cs : List Char) : Option (Nat × List Char) :=
  takeNumber? width (Text.dropBlank cs)

/-- A separator after blanks. -/
def takeMark? (mark : Char) (cs : List Char) : Option (List Char) :=
  match Text.dropBlank cs with
  | c :: rest => if c = mark then some rest else none
  | [] => none

/-- A year: at most four digits, or a sign and any number of digits. -/
def takeYear? (cs : List Char) : Option (Int × List Char) :=
  match Text.dropBlank cs with
  | '-' :: rest => (takeNumber? rest.length rest).map fun (n, rest) => (-(n : Int), rest)
  | '+' :: rest => (takeNumber? rest.length rest).map fun (n, rest) => ((n : Int), rest)
  | rest => (takeNumber? 4 rest).map fun (n, rest) => ((n : Int), rest)

/-- The nanoseconds of an optional fraction; digits after the ninth are dropped. -/
def takeFraction? : List Char → Option (Nat × List Char)
  | '.' :: rest =>
    let digits := rest.takeWhile Binary64.isDigit
    if digits.isEmpty then none
    else
      let kept := digits.take 9
      some (Binary64.digitsValue kept * Nat.pow 10 (9 - kept.length),
        rest.dropWhile Binary64.isDigit)
  | rest => some (0, rest)

/-- Two digits at the head of a text. -/
def takeTwo? : List Char → Option (Nat × List Char)
  | a :: b :: rest => do
    let a ← Binary64.digit? a
    let b ← Binary64.digit? b
    some (a * 10 + b, rest)
  | _ => none

/-- An offset in seconds: `Z`, `UTC` in any case, or a sign, hours, colons or blanks, minutes. -/
def takeOffset? (cs : List Char) : Option (Int × List Char) :=
  match cs with
  | 'Z' :: rest => some (0, rest)
  | 'z' :: rest => some (0, rest)
  | sign :: rest =>
    if (String.ofList (cs.take 3)).toUpper = "UTC" then some (0, cs.drop 3)
    else if sign = '+' ∨ sign = '-' ∨ sign = '−' then do
      let (hours, rest) ← takeTwo? rest
      let (minutes, rest) ← takeTwo? (rest.dropWhile fun c => c = ':' || Text.isBlankChar c)
      if 60 ≤ minutes then none
      else
        let seconds : Int := hours * 3600 + minutes * 60
        some (if sign = '+' then seconds else -seconds, rest)
    else none
  | [] => none

/-- The separator between date and time. -/
def dropSeparator? : List Char → Option (List Char)
  | c :: rest => if c = 'T' ∨ c = 't' ∨ c = ' ' then some rest else none
  | [] => none

/-- Reads an instant with its offset; nothing when a part is missing or out of range, or when text
other than blanks follows. -/
def ofText? (s : String) : Option Timestamp := do
  let (year, cs) ← takeYear? s.toList
  let cs ← takeMark? '-' cs
  let (month, cs) ← takePart? 2 cs
  let cs ← takeMark? '-' cs
  let (day, cs) ← takePart? 2 cs
  let cs ← dropSeparator? cs
  let (hour, cs) ← takePart? 2 cs
  let cs ← takeMark? ':' cs
  let (minute, cs) ← takePart? 2 cs
  let cs ← takeMark? ':' cs
  let (second, cs) ← takePart? 2 cs
  let (nano, cs) ← takeFraction? cs
  let (offset, cs) ← takeOffset? (Text.dropBlank cs)
  let date : Calendar.Date := ⟨year, month, day⟩
  if date.exists? && hour < 24 && minute < 60 && second ≤ 60 && offset.natAbs < 86400 &&
      -262143 ≤ year && year ≤ 262142 && (Text.dropBlank cs).isEmpty then
    let leap := second = 60
    let ofDay : Int := hour * 3600 + minute * 60 + (if leap then 59 else second)
    ofParts? (Calendar.dayOf date * 86400 + ofDay - offset)
      (if leap then nano + 1000000000 else nano)
  else none

end WorkQueue.Timestamp
