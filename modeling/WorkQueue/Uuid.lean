import WorkQueue.Json.Reader
import WorkQueue.Json.Printer

/-!
# Universally unique identifiers

Identifiers of 128 bits and their texts. They are written as 32 lowercase hexadecimal digits in
groups of 8, 4, 4, 4 and 12, and read in four spellings.

## Main definitions

* `Uuid`: the identifier; its order is that of the number, which is the order of its text
* `Uuid.toText`, `Uuid.ofText?`: writing and reading
-/

namespace WorkQueue

/-- An identifier of 128 bits. -/
structure Uuid where
  /-- The number whose hexadecimal digits the text shows. -/
  value : BitVec 128
  deriving DecidableEq, Inhabited

namespace Uuid

/-- The identifier with the lowest 128 bits of a number. -/
def ofNat (n : Nat) : Uuid := ⟨.ofNat 128 n⟩

instance : LE Uuid := ⟨fun a b => a.value.toNat ≤ b.value.toNat⟩
instance : LT Uuid := ⟨fun a b => a.value.toNat < b.value.toNat⟩

instance (a b : Uuid) : Decidable (a ≤ b) :=
  inferInstanceAs (Decidable (a.value.toNat ≤ b.value.toNat))

instance (a b : Uuid) : Decidable (a < b) :=
  inferInstanceAs (Decidable (a.value.toNat < b.value.toNat))

/-! ### Writing -/

/-- The lowest `count` hexadecimal digits of a number, the highest of them first. -/
def hexDigits : Nat → Nat → List Char
  | 0, _ => []
  | count + 1, n => hexDigits count (n / 16) ++ [Json.hexDigit (n % 16)]

/-- The group of `count` digits that ends before the lowest `low` digits. -/
def group (id : Uuid) (count low : Nat) : List Char :=
  hexDigits count (id.value.toNat >>> (4 * low))

/-- The hyphenated lowercase text. -/
def toText (id : Uuid) : String :=
  String.ofList (id.group 8 24 ++ '-' :: id.group 4 20 ++ '-' :: id.group 4 16 ++
    '-' :: id.group 4 12 ++ '-' :: id.group 12 0)

instance : ToString Uuid := ⟨toText⟩

/-! ### Reading -/

/-- The identifier spelled by exactly 32 digits. -/
def ofDigits? (cs : List Char) : Option Uuid :=
  if cs.length = 32 then (Text.natural? 16 cs).map ofNat else none

/-- The identifier spelled by 36 characters with hyphens after 8, 12, 16 and 20 digits. -/
def ofHyphenated? (cs : List Char) : Option Uuid :=
  let hyphens := [8, 13, 18, 23]
  if cs.length = 36 && hyphens.all (fun i => cs[i]? == some '-') then
    ofDigits? (cs.take 8 ++ (cs.drop 9).take 4 ++ (cs.drop 14).take 4 ++ (cs.drop 19).take 4 ++
      cs.drop 24)
  else none

/-- Reads 32 digits, or the hyphenated text, bare, in braces, or after `urn:uuid:` in letters of any
case. -/
def ofText? (s : String) : Option Uuid :=
  let cs := s.toList
  let urn := "urn:uuid:".toList
  if cs.length = 32 then ofDigits? cs
  else if cs.length = 36 then ofHyphenated? cs
  else if cs.length = 38 then
    if cs.head? = some '\x7b' && cs.getLast? = some '\x7d' then
      ofHyphenated? (cs.drop 1).dropLast
    else none
  else if cs.length = 45 then
    if (cs.take 9).map Char.toLower == urn then ofHyphenated? (cs.drop 9) else none
  else none

end Uuid

end WorkQueue
