import WorkQueue.IntRange

/-!
# Numerals

Whole numbers written in a base up to sixteen. Digits beyond nine are letters of either case. A
numeral has at least one digit, and leading zeros are allowed.

## Main definitions

* `Text.digit?`, `Text.natural?`: the value of a digit and of a run of digits
* `Text.unsigned?`, `Text.signed?`: numerals with an optional sign
-/

namespace WorkQueue.Text

/-- The value of a digit of a base up to sixteen. -/
def digit? (base : Nat) (c : Char) : Option Nat :=
  let value :=
    if '0' ≤ c ∧ c ≤ '9' then c.toNat - '0'.toNat
    else if 'a' ≤ c ∧ c ≤ 'f' then c.toNat - 'a'.toNat + 10
    else if 'A' ≤ c ∧ c ≤ 'F' then c.toNat - 'A'.toNat + 10
    else base
  if value < base then some value else none

/-- The number that a text of digits alone spells. -/
def natural? (base : Nat) (cs : List Char) : Option Nat :=
  if cs.isEmpty then none
  else cs.foldlM (fun n c => (digit? base c).map fun d => n * base + d) 0

/-- A numeral that may start with a plus sign. -/
def unsigned? (base : Nat) : List Char → Option Nat
  | '+' :: cs => natural? base cs
  | cs => natural? base cs

/-- A numeral that may start with a sign. -/
def signed? (base : Nat) : List Char → Option Int
  | '-' :: cs => (natural? base cs).map fun n => -(n : Int)
  | cs => (unsigned? base cs).map Int.ofNat

/-- A signed integer of 64 bits. -/
def word? (base : Nat) (cs : List Char) : Option Int :=
  (signed? base cs).bind IntRange.int64.keep?

end WorkQueue.Text
