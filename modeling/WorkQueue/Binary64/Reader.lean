import WorkQueue.Binary64

/-!
# Reading decimal text

Two readers of decimal text. `Binary64.ofText?` takes the number nearest to the decimal that is
written. `Binary64.ofSignificand?` is the rule for JSON numbers: the leading digits that fit a
64-bit word are taken as a whole number, and its nearest floating-point number is multiplied or
divided by a power of ten, with one rounding for each step.

## Main definitions

* `Binary64.ofText?`: signs, digits, fraction, exponent, and the names of infinity and NaN
* `Binary64.ofSignificand?`: a word times a power of ten
-/

namespace WorkQueue.Binary64

/-- The value of a digit, if the character is an ASCII digit. -/
def digit? (c : Char) : Option Nat :=
  if '0' ≤ c ∧ c ≤ '9' then some (c.toNat - '0'.toNat) else none

def isDigit (c : Char) : Bool := (digit? c).isSome

/-- The number that ASCII digits spell in base ten. -/
def digitsValue (cs : List Char) : Nat :=
  cs.foldl (fun n c => n * 10 + (digit? c).getD 0) 0

/-- A sign at the head of a text, if there is one, and the rest. -/
def takeSign : List Char → Bool × List Char
  | '-' :: cs => (true, cs)
  | '+' :: cs => (false, cs)
  | cs => (false, cs)

/-- The exponent part at the end of a decimal: nothing, or `e`, a sign and at least one digit. -/
def exponent? : List Char → Option Int
  | [] => some 0
  | c :: cs =>
    if c = 'e' ∨ c = 'E' then
      let (negative, ds) := takeSign cs
      if ds.isEmpty || !ds.all isDigit then none
      else some (if negative then -(digitsValue ds : Int) else digitsValue ds)
    else none

/-- The largest exponent that still matters; beyond it every decimal is zero or infinite. -/
def exponentBound : Int := 100000

/-- The unsigned decimal `whole.fraction` times a power of ten, rounded once. -/
def ofDecimal (negative : Bool) (whole fraction : List Char) (e : Int) : Binary64 :=
  let n := digitsValue (whole ++ fraction)
  let e := max (-exponentBound) (min exponentBound e) - fraction.length
  if 0 ≤ e then ofRatio negative (n * Nat.pow 10 e.toNat) 1
  else ofRatio negative n (Nat.pow 10 (-e).toNat)

/-- Reads a whole text as a number: a sign, then `inf`, `infinity` or `nan` in any case, or digits
with an optional point and exponent, at least one digit before the exponent. -/
def ofText? (s : String) : Option Binary64 :=
  let (negative, cs) := takeSign s.toList
  let name := (String.ofList cs).toLower
  if name = "inf" ∨ name = "infinity" then some (infinity negative)
  else if name = "nan" then some (ofMagnitude negative nan.magnitude)
  else
    let whole := cs.takeWhile isDigit
    let rest := cs.dropWhile isDigit
    let (fraction, rest) :=
      match rest with
      | '.' :: more => (more.takeWhile isDigit, more.dropWhile isDigit)
      | _ => ([], rest)
    if whole.isEmpty && fraction.isEmpty then none
    else (exponent? rest).map fun e => ofDecimal negative whole fraction e

/-! ### Words times powers of ten -/

/-- The number nearest to a power of ten. -/
def pow10 (n : Nat) : Binary64 := ofNat (Nat.pow 10 n)

/-- A finite number times `10 ^ e`, by at most one product, or by quotients of at most `10 ^ 308`
each; nothing when the product is infinite. -/
def scaleBy10? (x : Binary64) (e : Int) : Option Binary64 :=
  if 0 ≤ e then
    if e ≤ 308 then
      let y := x.mul (pow10 e.toNat)
      if y.isInfinite then none else some y
    else if x.isZero then some x else none
  else if -308 ≤ e then some (x.div (pow10 (-e).toNat))
  else if x.isZero then some x
  else scaleBy10? (x.div (pow10 308)) (e + 308)
termination_by (-e).toNat
decreasing_by omega

/-- The word `n` times `10 ^ e` with a sign; nothing when that is infinite. -/
def ofSignificand? (negative : Bool) (n : Nat) (e : Int) : Option Binary64 :=
  (scaleBy10? (ofNat n) e).map fun x => ofMagnitude negative x.magnitude

end WorkQueue.Binary64
