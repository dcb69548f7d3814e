/-!
# Ranges of integers

Integers between two bounds, such as the ones that a machine word of some width holds.

## Main definitions

* `IntRange`: the integers between two bounds
* `IntRange.keep?`, `IntRange.clamp`: what becomes of any integer
* `IntRange.int32`, `IntRange.int64`, `IntRange.nat32`, `IntRange.nat64`: the ranges of words
-/

namespace WorkQueue

/-- The integers from `lo` to `hi`. -/
structure IntRange where
  lo : Int
  hi : Int
  deriving DecidableEq, Inhabited, Repr

namespace IntRange

/-- An integer of the range; any other one is refused. -/
def keep? (r : IntRange) (n : Int) : Option Int :=
  if r.lo ≤ n ∧ n ≤ r.hi then some n else none

theorem keep?_eq_some_iff {r : IntRange} {n k : Int} :
    r.keep? n = some k ↔ n = k ∧ r.lo ≤ n ∧ n ≤ r.hi := by
  unfold keep?
  split <;> grind

/-- The integer of the range that is nearest to an integer. -/
def clamp (r : IntRange) (n : Int) : Int := max r.lo (min r.hi n)

/-- Signed integers of 32 bits. -/
def int32 : IntRange := ⟨-0x80000000, 0x7FFFFFFF⟩

/-- Signed integers of 64 bits. -/
def int64 : IntRange := ⟨-0x8000000000000000, 0x7FFFFFFFFFFFFFFF⟩

/-- Unsigned integers of 32 bits. -/
def nat32 : IntRange := ⟨0, 0xFFFFFFFF⟩

/-- Unsigned integers of 64 bits. -/
def nat64 : IntRange := ⟨0, 0xFFFFFFFFFFFFFFFF⟩

end IntRange

end WorkQueue
