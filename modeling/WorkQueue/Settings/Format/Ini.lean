import WorkQueue.Settings.Tree
import WorkQueue.Text.Blank

/-!
# Reading INI texts

An INI text sets names to texts, first at the top and then in sections. A section that is opened
again starts anew.

## Main definitions

* `Settings.Ini.read?`: the table of a text
-/

namespace WorkQueue.Settings.Ini

/-! ### Texts -/

/-- The text without the blanks at its ends. -/
def trim (cs : List Char) : List Char :=
  (Text.dropBlank (Text.dropBlank cs).reverse).reverse

/-- The text without the blanks at its end. -/
def trimEnd (cs : List Char) : List Char := (Text.dropBlank cs.reverse).reverse

/-- The character of an escape, if it stands for one, and the text after the escape. An escaped line
break stands for nothing. -/
def escape? : List Char → Option (Option Char × List Char)
  | [] => none
  | '0' :: cs => some ('\x00', cs)
  | 'a' :: cs => some ('\x07', cs)
  | 'b' :: cs => some ('\x08', cs)
  | 't' :: cs => some ('\t', cs)
  | 'r' :: cs => some ('\r', cs)
  | 'n' :: cs => some ('\n', cs)
  | '\n' :: cs => some (none, cs)
  | 'x' :: cs =>
    if cs.length < 4 then none
    else
      match Text.unsigned? 16 (cs.take 4) with
      | none => none
      | some n => if n.isValidChar then some (Char.ofNat n, cs.drop 4) else none
  | c :: cs => some (c, cs)

/-- The characters up to the first one of a kind, in front of the ones in `acc`. The text may end
before only if `open_` holds. -/
def takeUntil? (ends : Char → Bool) (open_ : Bool) :
    Nat → List Char → List Char → Option (List Char × List Char)
  | 0, _, _ => none
  | _ + 1, acc, [] => if open_ then some (acc.reverse, []) else none
  | fuel + 1, acc, c :: cs =>
    if ends c then some (acc.reverse, c :: cs)
    else if c = '\\' then
      match escape? cs with
      | none => none
      | some (d, rest) => takeUntil? ends open_ fuel (d.toList ++ acc) rest
    else takeUntil? ends open_ fuel (c :: acc) cs

/-- The text before an ending that has to come. -/
def takeTo? (ends : Char → Bool) (cs : List Char) : Option (List Char × List Char) :=
  takeUntil? ends false (cs.length + 1) [] cs

/-- The rest of a value on its line, after the parts in quotes in `acc`. -/
def takeValue? : Nat → Bool → List Char → List Char → Option (List Char × List Char)
  | 0, _, _, _ => none
  | _ + 1, _, acc, [] => some (acc, [])
  | fuel + 1, first, acc, c :: cs =>
    if c = '"' || c = '\'' then
      match takeTo? (· = c) cs with
      | none => none
      | some (part, rest) => takeValue? fuel false (acc ++ part) (rest.drop 1)
    else
      let ends (d : Char) : Bool := d = '\n' || d = '\r'
      (takeUntil? ends true (cs.length + 2) [] (c :: cs)).map fun (part, rest) =>
        (acc ++ (if first then trim part else trimEnd part), rest)

/-- The value after the sign that separates it from its name. -/
def readValue? (cs : List Char) : Option (List Char × List Char) :=
  let isBlank (c : Char) : Bool := Text.isBlankChar c && c ≠ '\n' && c ≠ '\r'
  let cs := cs.dropWhile isBlank
  takeValue? (cs.length + 1) true [] cs

/-! ### Sections -/

/-- What has been read of a text. -/
structure Progress where
  root : Table := []
  /-- The section that is open, with its entries. -/
  open_ : Option (String × Table) := none

/-- The table with the open section in it. -/
def Progress.table (p : Progress) : Table :=
  match p.open_ with
  | none => p.root
  | some (name, entries) => p.root.replace name (.table entries)

/-- Sets an entry of the open section, or at the top. -/
def Progress.set (p : Progress) (name value : List Char) : Progress :=
  let name := String.ofList name
  let value := Tree.text (String.ofList value)
  match p.open_ with
  | none => { p with root := p.root.replace name value }
  | some (s, entries) => { p with open_ := some (s, Table.replace name value entries) }

/-- The text after blanks, and whether it starts a line. -/
def skipBlank (starts : Bool) : List Char → Bool × List Char
  | [] => (starts, [])
  | c :: cs => if Text.isBlankChar c then skipBlank (c = '\n') cs else (starts, c :: cs)

/-- Reads comments, sections and entries. A comment has to start its line. -/
def readFrom? : Nat → Progress → Bool → List Char → Option Progress
  | 0, _, _, _ => none
  | fuel + 1, p, starts, cs =>
    match skipBlank starts cs with
    | (_, []) => some p
    | (starts, c :: rest) =>
      if c = ';' || c = '#' then
        if starts then readFrom? fuel p true ((rest.dropWhile fun d => d ≠ '\n').drop 1) else none
      else if c = '[' then
        match takeTo? (· = ']') rest with
        | none => none
        | some (name, rest) =>
          readFrom? fuel ⟨p.table, some (String.ofList (trim name), [])⟩ false (rest.drop 1)
      else
        match takeTo? (fun d => d = '=' || d = ':') (c :: rest) with
        | none => none
        | some (name, rest) =>
          let name := trim name
          if name.isEmpty then none
          else
            match readValue? (rest.drop 1) with
            | none => none
            | some (value, rest) => readFrom? fuel (p.set name value) false rest

/-- The table of a text. -/
def read? (s : String) : Option Table :=
  let cs := s.toList
  (readFrom? (cs.length + 1) {} true cs).map Progress.table

end WorkQueue.Settings.Ini
