/-!
# Blank text

The characters with the Unicode property `White_Space`, and trimming by them. A task type or a
database address that consists of such characters alone counts as missing.

## Main definitions

* `Text.isBlankChar`: membership in the property's table
* `Text.isBlank`: texts without any other character
* `Text.dropBlank`: the text from its first other character on
-/

namespace WorkQueue.Text

/-- The code points with the property `White_Space`, as inclusive ranges in ascending order. -/
def blankRanges : List (Nat × Nat) :=
  [(0x9, 0xD), (0x20, 0x20), (0x85, 0x85), (0xA0, 0xA0), (0x1680, 0x1680), (0x2000, 0x200A),
    (0x2028, 0x2029), (0x202F, 0x202F), (0x205F, 0x205F), (0x3000, 0x3000)]

/-- A character is blank when its code point lies in one of `blankRanges`. -/
def isBlankChar (c : Char) : Bool :=
  blankRanges.any fun (lo, hi) => lo ≤ c.toNat && c.toNat ≤ hi

/-- A text is blank when it holds blank characters only; the empty text is blank. -/
def isBlank (s : String) : Bool :=
  s.toList.all isBlankChar

/-- The characters from the first one on that is not blank. -/
def dropBlank (cs : List Char) : List Char :=
  cs.dropWhile isBlankChar

/-- A text with every run of blank characters made one space and the ends trimmed. -/
def squeeze (s : String) : String :=
  let words := s.toList.splitBy (fun a b => isBlankChar a == isBlankChar b)
  " ".intercalate ((words.filter fun w => !w.all isBlankChar).map String.ofList)

end WorkQueue.Text
