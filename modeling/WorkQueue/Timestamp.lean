/-!
# Instants

Instants of universal time with nanoseconds. A leap second is kept as the second before it with a
nanosecond count of one billion or more, so that the order of instants is that of the pairs.

## Main definitions

* `Timestamp`: second since 1970 and nanosecond, within the calendar's range
* `Timestamp.latest`: the largest representable instant outside leap seconds
* `Timestamp.addSeconds?`: a later instant, if it is representable
* `Timestamp.truncate`: the instant in whole microseconds, as databases keep it
-/

namespace WorkQueue

/-- The first second of the year -262143, counted from 1970. -/
def Timestamp.minSecond : Int := -8334601228800

/-- The last second of the year 262142, counted from 1970. -/
def Timestamp.maxSecond : Int := 8210266876799

/-- An instant of universal time. -/
structure Timestamp where
  /-- Seconds since the start of 1970, leap seconds not counted. -/
  second : Int
  /-- Nanoseconds since that second; a billion or more inside a leap second. -/
  nano : Nat
  nano_lt : nano < 2000000000
  minSecond_le : Timestamp.minSecond ≤ second
  le_maxSecond : second ≤ Timestamp.maxSecond
  deriving DecidableEq

namespace Timestamp

/-- The instant with the given parts, if they are in range. -/
def ofParts? (second : Int) (nano : Nat) : Option Timestamp :=
  if h : nano < 2000000000 ∧ minSecond ≤ second ∧ second ≤ maxSecond then
    some ⟨second, nano, h.1, h.2.1, h.2.2⟩
  else none

/-- The start of 1970. -/
def epoch : Timestamp := ⟨0, 0, by decide, by decide, by decide⟩

/-- The largest instant outside leap seconds. -/
def latest : Timestamp := ⟨maxSecond, 999999999, by decide, by decide, by decide⟩

instance : Inhabited Timestamp := ⟨epoch⟩

/-! ### Order -/

/-- Earlier: a smaller second, or the same second and a smaller nanosecond. -/
protected def Before (a b : Timestamp) : Prop :=
  a.second < b.second ∨ a.second = b.second ∧ a.nano < b.nano

instance : LT Timestamp := ⟨Timestamp.Before⟩
instance : LE Timestamp := ⟨fun a b => ¬ b < a⟩

instance (a b : Timestamp) : Decidable (a < b) :=
  inferInstanceAs (Decidable (a.second < b.second ∨ a.second = b.second ∧ a.nano < b.nano))

instance (a b : Timestamp) : Decidable (a ≤ b) := inferInstanceAs (Decidable (¬ b < a))

theorem lt_iff {a b : Timestamp} :
    a < b ↔ a.second < b.second ∨ a.second = b.second ∧ a.nano < b.nano := Iff.rfl

theorem le_iff {a b : Timestamp} :
    a ≤ b ↔ a.second < b.second ∨ a.second = b.second ∧ a.nano ≤ b.nano := by
  show ¬ b < a ↔ _
  rw [lt_iff]
  omega

protected theorem le_refl (t : Timestamp) : t ≤ t := le_iff.2 (.inr ⟨rfl, Nat.le_refl t.nano⟩)

/-- Only a leap second is later than `latest`. -/
theorem le_latest {t : Timestamp} (ht : t.nano < 1000000000) : t ≤ latest := by
  have h := t.le_maxSecond
  rw [le_iff]
  simp only [latest]
  omega

/-! ### Arithmetic -/

/-- The instant a whole number of seconds later, if it is representable. A positive step leaves a
leap second at the nanosecond that it had reached. -/
def addSeconds? (t : Timestamp) (seconds : Nat) : Option Timestamp :=
  if seconds = 0 then some t
  else ofParts? (t.second + seconds) (t.nano % 1000000000)

/-- The instant a number of nanoseconds later, ending at `latest`. -/
def addNanos (t : Timestamp) (nanos : Nat) : Timestamp :=
  let total := t.nano + nanos
  (ofParts? (t.second + (total / 1000000000 : Nat)) (total % 1000000000)).getD latest

/-- The start of 2000, from which databases count microseconds. -/
def databaseEpoch : Int := 946684800

/-- The instant in whole microseconds: the count from `databaseEpoch` loses its fraction. A leap
second becomes the second after it. -/
def truncate (t : Timestamp) : Timestamp :=
  let nanos := (t.second - databaseEpoch) * 1000000000 + t.nano
  let micros := nanos.tdiv 1000
  let second := micros / 1000000
  (ofParts? (second + databaseEpoch) ((micros % 1000000).toNat * 1000)).getD t

end Timestamp

end WorkQueue
