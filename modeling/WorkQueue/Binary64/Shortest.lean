import WorkQueue.Binary64

/-!
# Shortest decimal text

The decimal digits of a floating-point number are the fewest that read back as the same number,
and among those the nearest to its value. Three layouts write them: positional text without an
exponent, the layout of JSON numbers, and a diagnostic layout.

## Main definitions

* `Binary64.shortest`: the digits and the position of the decimal point
* `Binary64.Layout`: which magnitudes are written with an exponent
* `Binary64.positional`, `Binary64.json`, `Binary64.diagnostic`: the three texts
-/

namespace WorkQueue.Binary64

/-- The number of decimal digits of a natural number. -/
def digitCount (n : Nat) : Nat := (Nat.toDigits 10 n).length

/-- The largest `k` with `10 ^ k ≤ num / den`, for positive arguments. -/
def floorLog10 (num den : Nat) : Int :=
  if den ≤ num then (digitCount (num / den) : Int) - 1
  else
    let d := digitCount (den / num)
    if den ≤ num * Nat.pow 10 (d - 1) then 1 - (d : Int) else -(d : Int)

/-- The value `n * 10 ^ e` as a quotient. -/
def decimalRatio (n : Nat) (e : Int) : Nat × Nat :=
  if 0 ≤ e then (n * Nat.pow 10 e.toNat, 1) else (n, Nat.pow 10 (-e).toNat)

/-- The decimal with `count` digits nearest to the number, if it reads back as the number. -/
def readsBack? (x : Binary64) (count : Nat) : Option (Nat × Int) :=
  let (num, den) := x.ratio
  let e := floorLog10 num den - ((count : Int) - 1)
  let (up, down) := decimalRatio 1 (-e)
  let n := roundHalfEven (num * up) (den * down)
  let (rnum, rden) := decimalRatio n e
  if ofRatio false rnum rden = ofMagnitude false x.magnitude then some (n, e)
  else
    let exact := num * up / (den * down)
    let other := if n = exact then exact + 1 else exact
    let (onum, oden) := decimalRatio other e
    if ofRatio false onum oden = ofMagnitude false x.magnitude then some (other, e) else none

/-- Removes trailing zeros of a decimal, at most `fuel` of them. -/
def dropZeros : Nat → Nat → Int → Nat × Int
  | 0, n, e => (n, e)
  | fuel + 1, n, e => if n ≠ 0 ∧ n % 10 = 0 then dropZeros fuel (n / 10) (e + 1) else (n, e)

/-- The shortest decimal `n * 10 ^ e` that reads back as the absolute value of a finite number. -/
def shortest (x : Binary64) : Nat × Int :=
  if x.isZero then (0, 0)
  else
    let found := (List.range 17).findSome? fun i => x.readsBack? (i + 1)
    let (n, e) := found.getD (0, 0)
    dropZeros 20 n e

/-- How a decimal is laid out: with an exponent outside the given positions of the point. -/
structure Layout where
  /-- The point stands after at least this many digits in positional text. -/
  lowest : Option Int
  /-- The point stands after at most this many digits in positional text. -/
  highest : Option Int
  /-- Whether whole numbers carry `.0`. -/
  pointZero : Bool
  /-- Whether positive exponents carry a sign. -/
  plusSign : Bool := false

/-- Positional text only, whole numbers without a fraction. -/
def Layout.positional : Layout where
  lowest := none
  highest := none
  pointZero := false

/-- Positional from `1e-5` up to sixteen whole digits, whole numbers with `.0`, every exponent with
its sign. -/
def Layout.json : Layout where
  lowest := some (-4)
  highest := some 16
  pointZero := true
  plusSign := true

/-- Positional from `1e-4` up to sixteen whole digits, whole numbers with `.0`. -/
def Layout.diagnostic : Layout where
  lowest := some (-3)
  highest := some 16
  pointZero := true

/-- Writes the decimal with digits `digits` whose point stands after `point` of them. -/
def Layout.decimal (layout : Layout) (digits : String) (point : Int) : String :=
  let count := digits.length
  let zeros (n : Nat) : String := String.ofList (List.replicate n '0')
  let plain :=
    layout.lowest.all (fun lo => decide (lo ≤ point)) &&
      layout.highest.all (fun hi => decide (point ≤ hi))
  if plain then
    if point ≤ 0 then "0." ++ zeros (-point).toNat ++ digits
    else if (count : Int) ≤ point then
      digits ++ zeros (point.toNat - count) ++ (if layout.pointZero then ".0" else "")
    else (digits.take point.toNat).toString ++ "." ++ (digits.drop point.toNat).toString
  else
    let tail := if count = 1 then "" else "." ++ (digits.drop 1).toString
    let sign := if layout.plusSign && 0 < point then "+" else ""
    (digits.take 1).toString ++ tail ++ "e" ++ sign ++ toString (point - 1)

/-- The text of a number in a layout. -/
def Layout.text (layout : Layout) (x : Binary64) : String :=
  if x.isNaN then "NaN"
  else
    let sign := if x.negative then "-" else ""
    if x.isInfinite then sign ++ "inf"
    else if x.isZero then sign ++ (if layout.pointZero then "0.0" else "0")
    else
      let (n, e) := x.shortest
      let digits := toString n
      sign ++ layout.decimal digits (digits.length + e)

/-- Text without an exponent, whole numbers without a fraction. -/
def positional (x : Binary64) : String := Layout.positional.text x

/-- The text of a JSON number. -/
def json (x : Binary64) : String := Layout.json.text x

/-- The text used in diagnostics. -/
def diagnostic (x : Binary64) : String := Layout.diagnostic.text x

end WorkQueue.Binary64
