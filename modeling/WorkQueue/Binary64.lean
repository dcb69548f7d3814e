import WorkQueue.IntRange

/-!
# Binary floating-point numbers of 64 bits

Numbers of the interchange format with 64 bits, kept as their bit pattern. Every operation is exact
integer arithmetic followed by one rounding to the nearest representable number, ties to the even
significand, so that equality of numbers is equality of patterns and all operations evaluate in
proofs.

## Main definitions

* `Binary64.ofRatio`: the number nearest to a quotient of naturals
* `Binary64.ofInt`: the number nearest to an integer
* `Binary64.lt`, `Binary64.le`: the numeric order, false whenever a side is not a number
* `Binary64.mul`, `Binary64.div`: correctly rounded product and quotient
-/

namespace WorkQueue

/-- A floating-point number, given by its sign bit, eleven exponent bits and 52 fraction bits. -/
structure Binary64 where
  /-- The bit pattern; the sign is the highest bit. -/
  bits : UInt64
  deriving DecidableEq, Inhabited

namespace Binary64

/-! ### Parts of the pattern -/

/-- The value of the sign bit, above all patterns without a sign. -/
def signBit : Nat := 0x8000000000000000

/-- How many significands there are for one exponent. -/
def significands : Nat := 0x10000000000000

/-- The sign bit: true for numbers below zero and for the negative zero. -/
def negative (x : Binary64) : Bool := decide (signBit ≤ x.bits.toNat)

/-- The pattern without its sign; among numbers it grows with the absolute value. -/
def magnitude (x : Binary64) : Nat := x.bits.toNat % signBit

/-- The pattern of infinity without sign; larger magnitudes are not numbers. -/
def infinityMagnitude : Nat := 2047 * significands

def isNaN (x : Binary64) : Bool := decide (infinityMagnitude < x.magnitude)

def isInfinite (x : Binary64) : Bool := decide (x.magnitude = infinityMagnitude)

def isZero (x : Binary64) : Bool := decide (x.magnitude = 0)

/-- The number with a given sign and magnitude pattern. -/
def ofMagnitude (negative : Bool) (magnitude : Nat) : Binary64 :=
  ⟨UInt64.ofNat ((if negative then signBit else 0) + magnitude)⟩

def zero : Binary64 := ofMagnitude false 0

def negativeZero : Binary64 := ofMagnitude true 0

def infinity (negative : Bool) : Binary64 := ofMagnitude negative infinityMagnitude

/-- The pattern used for results that are not a number. -/
def nan : Binary64 := ofMagnitude false (infinityMagnitude + significands / 2)

/-- The integer significand of a finite number. -/
def significand (x : Binary64) : Nat :=
  let fraction := x.magnitude % significands
  if x.magnitude < significands then fraction else significands + fraction

/-- The power of two that scales the significand, counted up from the smallest one, `-1074`. -/
def scale (x : Binary64) : Nat :=
  x.magnitude / significands - 1

/-- The absolute value of a finite number as a quotient. -/
def ratio (x : Binary64) : Nat × Nat :=
  (x.significand <<< x.scale, 1 <<< 1074)

/-! ### Rounding -/

/-- A quotient rounded to the nearest natural number, ties to the even one. -/
def roundHalfEven (num den : Nat) : Nat :=
  let q := num / den
  let r := num % den
  if den < 2 * r ∨ (2 * r = den ∧ q % 2 = 1) then q + 1 else q

/-- The largest `e` with `2 ^ e ≤ num / den`, for positive arguments. -/
def floorLog2 (num den : Nat) : Int :=
  let e : Int := (Nat.log2 num : Int) - Nat.log2 den
  if den <<< e.toNat ≤ num <<< (-e).toNat then e else e - 1

/-- The number nearest to `num / den`, ties to even, infinite beyond the largest finite one. A
denominator of zero is read as one. -/
def ofRatio (negative : Bool) (num den : Nat) : Binary64 :=
  if num = 0 then ofMagnitude negative 0
  else
    let den := max den 1
    let k := (floorLog2 num den + 1022).toNat
    let q :=
      if k ≤ 1074 then roundHalfEven (num <<< (1074 - k)) den
      else roundHalfEven num (den <<< (k - 1074))
    ofMagnitude negative (min (k * significands + q) infinityMagnitude)

/-- The number nearest to a natural number. -/
def ofNat (n : Nat) : Binary64 := ofRatio false n 1

/-- The number nearest to an integer. -/
def ofInt (n : Int) : Binary64 := ofRatio (decide (n < 0)) n.natAbs 1

/-! ### Order -/

/-- A key that orders the numbers; both zeros have the key zero. -/
def orderKey (x : Binary64) : Int :=
  if x.negative then -(x.magnitude : Int) else x.magnitude

/-- Strictly smaller; nothing is smaller or larger than a pattern that is not a number. -/
def lt (x y : Binary64) : Bool :=
  !x.isNaN && !y.isNaN && decide (x.orderKey < y.orderKey)

/-- Smaller or equal; false whenever a side is not a number. -/
def le (x y : Binary64) : Bool :=
  !x.isNaN && !y.isNaN && decide (x.orderKey ≤ y.orderKey)

/-! ### Arithmetic -/

/-- The product, rounded once. -/
def mul (x y : Binary64) : Binary64 :=
  let negative := x.negative != y.negative
  if x.isNaN || y.isNaN then nan
  else if x.isInfinite || y.isInfinite then
    if x.isZero || y.isZero then nan else infinity negative
  else ofRatio negative (x.ratio.1 * y.ratio.1) (x.ratio.2 * y.ratio.2)

/-- The quotient, rounded once. -/
def div (x y : Binary64) : Binary64 :=
  let negative := x.negative != y.negative
  if x.isNaN || y.isNaN then nan
  else if x.isInfinite then if y.isInfinite then nan else infinity negative
  else if y.isInfinite then ofMagnitude negative 0
  else if y.isZero then if x.isZero then nan else infinity negative
  else ofRatio negative (x.ratio.1 * y.ratio.2) (x.ratio.2 * y.ratio.1)

/-- The integer nearest to a number, halves away from zero, kept in a range; zero when it is not a
number. -/
def roundClamped (r : IntRange) (x : Binary64) : Int :=
  if x.isNaN then 0
  else if x.isInfinite then if x.negative then r.lo else r.hi
  else
    let (num, den) := x.ratio
    let n := (2 * num + den) / (2 * den)
    r.clamp (if x.negative then -(n : Int) else n)

end Binary64

end WorkQueue
