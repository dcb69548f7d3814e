import WorkQueue.Json
import WorkQueue.Binary64.Reader
import WorkQueue.Text.Numeral

/-!
# Reading JSON text

A strict reader of JSON texts. Integers that fit 64 bits stay exact; all other numbers follow
`Binary64.ofSignificand?`, and a number too large for a floating-point number is refused. At most
127 arrays and objects may stand inside each other.

A reader who needs only some members of a value says so by an outline. The other members are left
out of the value, and only their syntax is checked: their numbers may be too large, their arrays and
objects may stand inside each other to any depth, and their texts may spell half a surrogate pair.

## Main definitions

* `Json.Outline`: the members that are needed
* `Json.readOutlined?`: the value at the head of a text, and the text after it
* `Json.read?`: a text that is one value with blanks around it
-/

namespace WorkQueue.Json

/-- The four characters that may stand between the parts of a JSON text. -/
def isSpace (c : Char) : Bool := c = ' ' || c = '\n' || c = '\t' || c = '\r'

def dropSpace (cs : List Char) : List Char := cs.dropWhile isSpace

/-! ### Numbers -/

/-- Takes digits into a word as long as it stays below `2 ^ 64`; returns the word, the digits taken
and the digits left. -/
def takeWord (word : Nat) (taken : Nat) : List Char → Nat × Nat × List Char
  | [] => (word, taken, [])
  | c :: cs =>
    let next := word * 10 + (Binary64.digit? c).getD 0
    if next < UInt64.size then takeWord next (taken + 1) cs else (word, taken, c :: cs)

/-- A number as it is written. -/
structure Numeral where
  negative : Bool
  /-- The digits before the point. -/
  whole : List Char
  /-- The digits after the point, if there is one. -/
  fraction : Option (List Char)
  /-- The number after `e`, if there is one. -/
  exponent : Option Int
  deriving DecidableEq, Inhabited

/-- The value of a decimal with a fraction, an exponent, or more whole digits than a word holds. -/
def Numeral.decimal? (n : Numeral) : Option Number :=
  let (word, _, left) := takeWord 0 0 n.whole
  let (word, taken, _) := takeWord word 0 (n.fraction.getD [])
  let e := max (-Binary64.exponentBound) (min Binary64.exponentBound (n.exponent.getD 0))
  (Binary64.ofSignificand? n.negative word (e + left.length - taken)).map .binary

/-- The value of a number, if it is not too large. -/
def Numeral.value? (n : Numeral) : Option Number :=
  let magnitude : Int := Binary64.digitsValue n.whole
  if n.fraction.isSome || n.exponent.isSome then n.decimal?
  else if n.negative then
    if magnitude = 0 then some (.binary .negativeZero)
    else if minInteger ≤ -magnitude then some (.integer (-magnitude))
    else n.decimal?
  else if magnitude ≤ maxInteger then some (.integer magnitude)
  else n.decimal?

/-- The exponent at the head of a text, if `e` or `E` stands there: its value and the rest. -/
def readExponent? : List Char → Option (Option Int × List Char)
  | [] => some (none, [])
  | c :: cs =>
    if c = 'e' ∨ c = 'E' then
      let (negative, ds) := Binary64.takeSign cs
      let digits := ds.takeWhile Binary64.isDigit
      if digits.isEmpty then none
      else
        let n : Int := Binary64.digitsValue digits
        some (some (if negative then -n else n), ds.dropWhile Binary64.isDigit)
    else some (none, c :: cs)

/-- The number at the head of a text, its sign already taken. -/
def readNumeral? (negative : Bool) (cs : List Char) : Option (Numeral × List Char) := do
  let whole := cs.takeWhile Binary64.isDigit
  let rest := cs.dropWhile Binary64.isDigit
  if whole.isEmpty || (whole.head? = some '0' && 1 < whole.length) then none
  else
    let (fraction, rest) ← match rest with
      | '.' :: more =>
        let digits := more.takeWhile Binary64.isDigit
        if digits.isEmpty then none else some (some digits, more.dropWhile Binary64.isDigit)
      | _ => some (none, rest)
    let (e, rest) ← readExponent? rest
    some (⟨negative, whole, fraction, e⟩, rest)

/-- The value of the number at the head of a text, its sign already taken. -/
def readUnsigned? (negative : Bool) (cs : List Char) : Option (Number × List Char) := do
  let (numeral, rest) ← readNumeral? negative cs
  let number ← numeral.value?
  some (number, rest)

/-! ### Texts -/

/-- The code unit that four hexadecimal digits at the head of a text spell. -/
def readUnit? : List Char → Option (Nat × List Char)
  | a :: b :: c :: d :: rest => do
    let a ← Text.digit? 16 a
    let b ← Text.digit? 16 b
    let c ← Text.digit? 16 c
    let d ← Text.digit? 16 d
    some (((a * 16 + b) * 16 + c) * 16 + d, rest)
  | _ => none

/-- The character after `\u`: one code unit, or a surrogate pair written as two escapes. -/
def readUnicode? (cs : List Char) : Option (Char × List Char) := do
  let (u, rest) ← readUnit? cs
  if 0xD800 ≤ u ∧ u < 0xDC00 then
    match rest with
    | '\\' :: 'u' :: more =>
      let (v, rest) ← readUnit? more
      if 0xDC00 ≤ v ∧ v < 0xE000 then
        some (Char.ofNat (0x10000 + (u - 0xD800) * 0x400 + (v - 0xDC00)), rest)
      else none
    | _ => none
  else if 0xDC00 ≤ u ∧ u < 0xE000 then none
  else some (Char.ofNat u, rest)

/-- The character that an escape stands for, the backslash already taken. -/
def readEscape? : List Char → Option (Char × List Char)
  | '"' :: cs => some ('"', cs)
  | '\\' :: cs => some ('\\', cs)
  | '/' :: cs => some ('/', cs)
  | 'b' :: cs => some ('\x08', cs)
  | 'f' :: cs => some ('\x0c', cs)
  | 'n' :: cs => some ('\n', cs)
  | 'r' :: cs => some ('\r', cs)
  | 't' :: cs => some ('\t', cs)
  | 'u' :: cs => readUnicode? cs
  | _ => none

/-- The characters up to the closing quote, the opening one already taken. The fuel bounds the
number of characters. -/
def readText? : Nat → List Char → List Char → Option (String × List Char)
  | 0, _, _ => none
  | _ + 1, _, [] => none
  | fuel + 1, acc, c :: cs =>
    if c = '"' then some (String.ofList acc.reverse, cs)
    else if c = '\\' then
      match readEscape? cs with
      | none => none
      | some (d, rest) => readText? fuel (d :: acc) rest
    else if c.toNat < 0x20 then none
    else readText? fuel (c :: acc) cs

/-! ### Syntax alone -/

/-- Removes an expected word from the head of a text. -/
def dropWord? : List Char → List Char → Option (List Char)
  | [], cs => some cs
  | w :: ws, c :: cs => if w = c then dropWord? ws cs else none
  | _ :: _, [] => none

/-- The text after a closing quote, the opening one already taken. Escapes of code units may stand
for anything. -/
def skipText? : List Char → Option (List Char)
  | [] => none
  | '"' :: cs => some cs
  | '\\' :: 'u' :: a :: b :: c :: d :: cs =>
    if [a, b, c, d].all fun h => (Text.digit? 16 h).isSome then skipText? cs else none
  | '\\' :: c :: cs =>
    if c ∈ ['"', '\\', '/', 'b', 'f', 'n', 'r', 't'] then skipText? cs else none
  | c :: cs => if c = '\\' ∨ c.toNat < 0x20 then none else skipText? cs

mutual

/-- The text after the value at its head, of which only the syntax is checked. The fuel bounds the
number of steps. -/
def skipValue? : Nat → List Char → Option (List Char)
  | 0, _ => none
  | fuel + 1, cs =>
    match dropSpace cs with
    | [] => none
    | '"' :: rest => skipText? rest
    | '-' :: rest => (readNumeral? true rest).map (·.2)
    | 'n' :: rest => dropWord? ['u', 'l', 'l'] rest
    | 't' :: rest => dropWord? ['r', 'u', 'e'] rest
    | 'f' :: rest => dropWord? ['a', 'l', 's', 'e'] rest
    | '[' :: rest =>
      match dropSpace rest with
      | ']' :: rest => some rest
      | rest => skipItems? fuel rest
    | '\x7b' :: rest =>
      match dropSpace rest with
      | '\x7d' :: rest => some rest
      | rest => skipMembers? fuel rest
    | rest => (readNumeral? false rest).map (·.2)

/-- The text after the closing bracket of an array. -/
def skipItems? : Nat → List Char → Option (List Char)
  | 0, _ => none
  | fuel + 1, cs =>
    match skipValue? fuel cs with
    | none => none
    | some rest =>
      match dropSpace rest with
      | ',' :: rest => skipItems? fuel rest
      | ']' :: rest => some rest
      | _ => none

/-- The text after the closing brace of an object. -/
def skipMembers? : Nat → List Char → Option (List Char)
  | 0, _ => none
  | fuel + 1, cs =>
    match dropSpace cs with
    | '"' :: rest =>
      match (skipText? rest).map dropSpace with
      | some (':' :: rest) =>
        match (skipValue? fuel rest).map dropSpace with
        | some (',' :: rest) => skipMembers? fuel rest
        | some ('\x7d' :: rest) => some rest
        | _ => none
      | _ => none
    | _ => none

end

/-! ### Values -/

/-- The parts of a value that are needed. -/
inductive Outline where
  /-- All of it. -/
  | whole
  /-- A list, of each of whose items the same parts are needed. -/
  | items (item : Outline)
  /-- The members with the given names, or as many items in the same order. -/
  | fields (names : List (String × Outline))
  deriving Inhabited

namespace Outline

/-- The outline of members that are needed as a whole. -/
def named (names : List String) : Outline := fields (names.map fun name => (name, whole))

/-- What is needed of the item at a position. -/
def item (o : Outline) (position : Nat) : Outline :=
  match o with
  | whole => whole
  | items o => o
  | fields names => (names[position]?.map (·.2)).getD whole

/-- What is needed of the member with a name, if anything. -/
def member? (o : Outline) (name : String) : Option Outline :=
  match o with
  | fields names => (names.find? fun n => n.1 = name).map (·.2)
  | _ => some whole

end Outline

/-- How many arrays and objects may stand inside each other. -/
def maxDepth : Nat := 127

mutual

/-- The value at the head of a text, as far as it is needed. `depth` more containers may be opened;
the fuel bounds the number of steps. -/
def readValue? : Nat → Nat → Outline → List Char → Option (Json × List Char)
  | 0, _, _, _ => none
  | fuel + 1, depth, o, cs =>
    match dropSpace cs with
    | [] => none
    | '"' :: rest => (readText? (rest.length + 1) [] rest).map fun (s, rest) => (text s, rest)
    | '-' :: rest => (readUnsigned? true rest).map fun (n, rest) => (number n, rest)
    | 'n' :: rest => (dropWord? ['u', 'l', 'l'] rest).map fun rest => (null, rest)
    | 't' :: rest => (dropWord? ['r', 'u', 'e'] rest).map fun rest => (bool true, rest)
    | 'f' :: rest => (dropWord? ['a', 'l', 's', 'e'] rest).map fun rest => (bool false, rest)
    | '[' :: rest =>
      if depth = 0 then none
      else
        match dropSpace rest with
        | ']' :: rest => some (array [], rest)
        | rest => readItems? fuel (depth - 1) o [] rest
    | '\x7b' :: rest =>
      if depth = 0 then none
      else
        match dropSpace rest with
        | '\x7d' :: rest => some (object [], rest)
        | rest => readMembers? fuel (depth - 1) o [] rest
    | rest => (readUnsigned? false rest).map fun (n, rest) => (number n, rest)

/-- The items of an array up to its closing bracket. -/
def readItems? : Nat → Nat → Outline → List Json → List Char → Option (Json × List Char)
  | 0, _, _, _, _ => none
  | fuel + 1, depth, o, acc, cs =>
    match readValue? fuel depth (o.item acc.length) cs with
    | none => none
    | some (item, rest) =>
      match dropSpace rest with
      | ',' :: rest => readItems? fuel depth o (item :: acc) rest
      | ']' :: rest => some (array (item :: acc).reverse, rest)
      | _ => none

/-- The members of an object up to its closing brace. -/
def readMembers? :
    Nat → Nat → Outline → List (String × Json) → List Char → Option (Json × List Char)
  | 0, _, _, _, _ => none
  | fuel + 1, depth, o, acc, cs =>
    match dropSpace cs with
    | '"' :: rest =>
      match readText? (rest.length + 1) [] rest with
      | none => none
      | some (key, rest) =>
        match dropSpace rest with
        | ':' :: rest =>
          let outcome := match o.member? key with
            | none => (skipValue? fuel rest).map fun rest => (acc, rest)
            | some o => (readValue? fuel depth o rest).map fun (value, rest) =>
              ((key, value) :: acc, rest)
          match outcome with
          | none => none
          | some (acc, rest) =>
            match dropSpace rest with
            | ',' :: rest => readMembers? fuel depth o acc rest
            | '\x7d' :: rest => some (object acc.reverse, rest)
            | _ => none
        | _ => none
    | _ => none

end

/-- The value at the head of a text, as far as it is needed, and the text after it. -/
def readOutlined? (o : Outline) (s : String) : Option (Json × List Char) :=
  let cs := s.toList
  readValue? (2 * cs.length + 2) maxDepth o cs

/-- A text that is one value with blanks around it. -/
def read? (s : String) : Option Json :=
  match readOutlined? .whole s with
  | some (value, rest) => if (dropSpace rest).isEmpty then some value else none
  | none => none

end WorkQueue.Json
