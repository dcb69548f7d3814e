import WorkQueue.Binary64
import Mathlib.Algebra.Order.Field.Power
import Mathlib.Data.Nat.Log
import Mathlib.Data.Rat.Cast.Order
import Mathlib.Tactic.FieldSimp
import Mathlib.Tactic.Linarith
import Mathlib.Tactic.Positivity
import Mathlib.Tactic.Ring

/-!
# Values of floating-point numbers

A finite number of 64 bits is a signed multiple of the smallest positive one. The magnitude pattern
grows with that multiple, so patterns are compared in place of values. Rounding a quotient looks for the
multiple of a power of two that is nearest to it, where the power is chosen so that the multiple has 53
bits; no number of the format comes nearer.

## Main definitions

* `Binary64.units`: the absolute value of a magnitude pattern, in units of the smallest positive number
* `Binary64.value`: the value of a finite number
* `Binary64.IsNearest`: no finite number is nearer to a rational

## Main statements

* `Binary64.le_iff`: the order of numbers is the one of their values
* `Binary64.isNearest_ofRatio`, `Binary64.isNearest_div`: quotients are rounded to the nearest number
* `Binary64.value_ofInt`: integers of 53 bits are exact
-/

namespace WorkQueue.Binary64

variable {x y : Binary64} {k q : Nat} {r : ℚ}

/-! ### Units -/

/-- The absolute value of a magnitude pattern, in units of the smallest positive number. For the
pattern of infinity and above it goes on as if these were numbers. -/
def units (m : Nat) : Nat :=
  (if m < significands then m else significands + m % significands) * 2 ^ (m / significands - 1)

theorem significand_shiftLeft_scale (x : Binary64) :
    x.significand <<< x.scale = units x.magnitude := by
  simp only [significand, scale, units, Nat.shiftLeft_eq]
  split
  · rename_i small
    rw [Nat.mod_eq_of_lt small]
  · rfl

/-- How many units there are in one. -/
@[irreducible] def unitsPerOne : Nat := 1 <<< 1074

theorem unitsPerOne_eq {n : Nat} (h : n = 1074) : unitsPerOne = 2 ^ n := by
  rw [unitsPerOne, ← h, Nat.one_shiftLeft]

theorem unitsPerOne_pos : (0 : ℚ) < unitsPerOne := by
  generalize top_eq : 1074 = top
  rw [unitsPerOne_eq top_eq.symm]
  positivity

/-- A pattern is put together from a significand and the exponent that scales it; the significand may
even be one too large. -/
theorem units_mul_add (q_le : q ≤ 2 * significands) (normal : k = 0 ∨ significands ≤ q) :
    units (k * significands + q) = q * 2 ^ k := by
  have positive : 0 < significands := by decide
  rcases Nat.lt_or_ge q significands with small | large
  · obtain rfl : k = 0 := normal.resolve_right (Nat.not_le.2 small)
    simp [units, small, Nat.div_eq_of_lt small]
  · rcases Nat.lt_or_eq_of_le q_le with less | rfl
    · have split : k * significands + q = significands * (k + 1) + (q - significands) := by
        rw [Nat.mul_succ, Nat.mul_comm]
        omega
      have fraction : q - significands < significands := by omega
      have whole : ¬ significands * (k + 1) + (q - significands) < significands := by
        rw [Nat.mul_succ]
        omega
      rw [units, split, if_neg whole, Nat.mul_add_mod, Nat.mod_eq_of_lt fraction,
        Nat.mul_add_div positive, Nat.div_eq_of_lt fraction, Nat.add_sub_cancel' large]
      rfl
    · have split : k * significands + 2 * significands = significands * (k + 2) := by ring
      have whole : ¬ significands * (k + 2) < significands := by
        rw [Nat.mul_add]
        omega
      rw [units, split, if_neg whole, Nat.mul_mod_right, Nat.mul_div_cancel_left _ positive]
      show (significands + 0) * 2 ^ (k + 1) = _
      ring

/-- Every pattern is put together in that way. -/
theorem exists_eq_mul_add (m : Nat) : ∃ k q, m = k * significands + q ∧ q < 2 * significands ∧
    (k = 0 ∨ significands ≤ q) := by
  have positive : 0 < significands := by decide
  have split := Nat.div_add_mod m significands
  have fraction := Nat.mod_lt m positive
  rcases Nat.eq_zero_or_pos (m / significands) with zero | normal
  · rw [zero] at split
    exact ⟨0, m, by omega, by omega, .inl rfl⟩
  · obtain ⟨k, quotient⟩ := Nat.exists_eq_succ_of_ne_zero normal.ne'
    rw [quotient, Nat.mul_succ, Nat.mul_comm] at split
    exact ⟨k, significands + m % significands, by omega, by omega, .inr (by omega)⟩

theorem strictMono_units : StrictMono units := by
  refine strictMono_nat_of_lt_succ fun m => ?_
  obtain ⟨k, q, rfl, q_lt, normal⟩ := exists_eq_mul_add m
  have next : k = 0 ∨ significands ≤ q + 1 := normal.imp_right Nat.le_succ_of_le
  rw [units_mul_add q_lt.le normal, Nat.add_assoc, units_mul_add (Nat.succ_le_of_lt q_lt) next]
  exact Nat.mul_lt_mul_of_pos_right (Nat.lt_succ_self q) (Nat.two_pow_pos k)

@[simp] theorem units_zero : units 0 = 0 := rfl

/-! ### Values -/

/-- The number is neither infinite nor a pattern for other results. -/
def IsFinite (x : Binary64) : Prop := x.magnitude < infinityMagnitude

instance (x : Binary64) : Decidable x.IsFinite := inferInstanceAs (Decidable (_ < _))

/-- The sign of a number as a factor. -/
def sign (negative : Bool) : ℚ := if negative then -1 else 1

theorem abs_sign (negative : Bool) : |sign negative| = 1 := by cases negative <;> simp [sign]

/-- The value of a finite number. -/
def value (x : Binary64) : ℚ := sign x.negative * (units x.magnitude / unitsPerOne)

theorem abs_value (x : Binary64) : |x.value| = units x.magnitude / unitsPerOne := by
  have nonneg : (0 : ℚ) ≤ units x.magnitude / unitsPerOne := by positivity
  rw [value, abs_mul, abs_sign, one_mul, abs_of_nonneg nonneg]

/-- The absolute value is the quotient that arithmetic computes with. -/
theorem abs_value_eq_ratio (x : Binary64) : |x.value| = (x.ratio.1 : ℚ) / x.ratio.2 := by
  rw [abs_value, ratio, significand_shiftLeft_scale, unitsPerOne]

theorem value_le_iff : x.value ≤ y.value ↔ x.orderKey ≤ y.orderKey := by
  have cast : ∀ z : Binary64, z.value =
      ((if z.negative then -(units z.magnitude : Int) else units z.magnitude : Int) : ℚ) / unitsPerOne := by
    intro z
    rw [value, sign]
    split <;> push_cast <;> ring
  rw [cast, cast, div_le_div_iff_of_pos_right unitsPerOne_pos, Int.cast_le]
  have mono := strictMono_units.le_iff_le (a := x.magnitude) (b := y.magnitude)
  have mono' := strictMono_units.le_iff_le (a := y.magnitude) (b := x.magnitude)
  have x_zero : units x.magnitude = 0 ↔ x.magnitude = 0 := strictMono_units.injective.eq_iff' rfl
  have y_zero : units y.magnitude = 0 ↔ y.magnitude = 0 := strictMono_units.injective.eq_iff' rfl
  simp only [orderKey]
  split <;> split <;> omega

/-- The order of numbers is the one of their values. -/
theorem le_iff : x.le y ↔ ¬ x.isNaN ∧ ¬ y.isNaN ∧ x.value ≤ y.value := by
  simp [le, value_le_iff, and_assoc]

/-! ### Patterns -/

section

variable {negative : Bool} {m : Nat} (h : m < signBit)
include h

theorem toNat_ofMagnitude : (ofMagnitude negative m).bits.toNat =
    (if negative then signBit else 0) + m := by
  have word : (if negative then signBit else 0) + m < 2 ^ 64 := by
    simp only [signBit] at h ⊢
    split <;> omega
  exact Nat.mod_eq_of_lt word

theorem magnitude_ofMagnitude : (ofMagnitude negative m).magnitude = m := by
  rw [magnitude, toNat_ofMagnitude h]
  simp only [signBit] at h ⊢
  split <;> omega

theorem negative_ofMagnitude : (ofMagnitude negative m).negative = negative := by
  rw [Binary64.negative, toNat_ofMagnitude h]
  simp only [signBit] at h ⊢
  cases negative
  · simpa using h
  · simp

theorem value_ofMagnitude :
    (ofMagnitude negative m).value = sign negative * (units m / unitsPerOne) := by
  rw [value, magnitude_ofMagnitude h, negative_ofMagnitude h]

end

@[simp] theorem value_zero : zero.value = 0 := by
  rw [zero, value_ofMagnitude (by decide)]
  simp

/-! ### Rounding to a natural number -/

/-- No natural number is nearer to a quotient than the one that it is rounded to. -/
theorem roundHalfEven_nearest {num den : Nat} (positive : 0 < den) (n : Nat) :
    |(roundHalfEven num den : ℚ) - num / den| ≤ |(n : ℚ) - num / den| := by
  have den_pos : (0 : ℚ) < den := Nat.cast_pos.2 positive
  have split : (num : ℚ) / den = (num / den : Nat) + (num % den : Nat) / den := by
    have whole : (num : ℚ) = den * (num / den : Nat) + (num % den : Nat) := by
      exact_mod_cast (Nat.div_add_mod num den).symm
    rw [div_eq_iff den_pos.ne', add_mul, div_mul_cancel₀ _ den_pos.ne', mul_comm, ← whole]
  have rest_nonneg : (0 : ℚ) ≤ (num % den : Nat) / den := by positivity
  have rest_lt : ((num % den : Nat) : ℚ) / den < 1 := by
    rw [div_lt_one den_pos]
    exact_mod_cast Nat.mod_lt num positive
  have rounded : (roundHalfEven num den = num / den ∧ ((num % den : Nat) : ℚ) / den ≤ 1 / 2) ∨
      (roundHalfEven num den = num / den + 1 ∧ 1 / 2 ≤ ((num % den : Nat) : ℚ) / den) := by
    simp only [roundHalfEven]
    split
    · rename_i up
      refine .inr ⟨rfl, ?_⟩
      rw [div_le_div_iff₀ two_pos den_pos]
      exact_mod_cast (by omega : 1 * den ≤ num % den * 2)
    · rename_i down
      refine .inl ⟨rfl, ?_⟩
      rw [div_le_div_iff₀ den_pos two_pos]
      exact_mod_cast (by omega : num % den * 2 ≤ 1 * den)
  rw [split]
  generalize ((num % den : Nat) : ℚ) / den = rest at *
  generalize num / den = quotient at *
  rcases Nat.lt_or_ge quotient n with above | below
  · have far : (quotient : ℚ) + 1 ≤ n := by exact_mod_cast above
    have distance : |(n : ℚ) - (quotient + rest)| = n - (quotient + rest) :=
      abs_of_nonneg (by linarith)
    rw [distance, abs_le]
    rcases rounded with ⟨rounded, half⟩ | ⟨rounded, half⟩ <;> rw [rounded] <;> push_cast <;>
      constructor <;> linarith
  · have far : (n : ℚ) ≤ quotient := by exact_mod_cast below
    have distance : |(n : ℚ) - (quotient + rest)| = quotient + rest - n := by
      rw [abs_sub_comm]
      exact abs_of_nonneg (by linarith)
    rw [distance, abs_le]
    rcases rounded with ⟨rounded, half⟩ | ⟨rounded, half⟩ <;> rw [rounded] <;> push_cast <;>
      constructor <;> linarith

/-! ### Rounding to a number of the format -/

/-- No finite number is nearer to a rational. -/
def IsNearest (x : Binary64) (r : ℚ) : Prop :=
  x.IsFinite ∧ ∀ y : Binary64, y.IsFinite → |x.value - r| ≤ |y.value - r|

/-- The multiple of a power of two that is nearest to a number of 53 bits before the point is nearer
than all patterns. Patterns below that power's normal range are too far away. -/
theorem units_nearest {ρ : ℚ} (nearest : ∀ n : Nat, |(q : ℚ) - ρ| ≤ |(n : ℚ) - ρ|)
    (q_le : q ≤ 2 * significands) (normal : k = 0 ∨ significands ≤ q ∧ (significands : ℚ) ≤ ρ)
    (m : Nat) :
    |(units (k * significands + q) : ℚ) - ρ * 2 ^ k| ≤ |(units m : ℚ) - ρ * 2 ^ k| := by
  have power : (0 : ℚ) < 2 ^ k := by positivity
  have scaled : ∀ z : ℚ, |z * 2 ^ k - ρ * 2 ^ k| = |z - ρ| * 2 ^ k := by
    intro z
    rw [← sub_mul, abs_mul, abs_of_pos power]
  obtain ⟨j, p, rfl, p_lt, p_normal⟩ := exists_eq_mul_add m
  rw [units_mul_add q_le (normal.imp_right And.left), units_mul_add p_lt.le p_normal]
  push_cast
  rw [scaled]
  rcases Nat.le_total k j with coarser | finer
  · have multiple : (p : ℚ) * 2 ^ j = ((p * 2 ^ (j - k) : Nat) : ℚ) * 2 ^ k := by
      push_cast
      rw [mul_assoc, ← pow_add, Nat.sub_add_cancel coarser]
    rw [multiple, scaled]
    exact mul_le_mul_of_nonneg_right (nearest _) power.le
  · rcases Nat.eq_or_lt_of_le finer with rfl | finer
    · rw [scaled]
      exact mul_le_mul_of_nonneg_right (nearest p) power.le
    · obtain ⟨-, ρ_ge⟩ := normal.resolve_left (Nat.ne_zero_of_lt finer)
      have small : (p : ℚ) * 2 ^ j ≤ significands * 2 ^ k := by
        have bound : p * 2 ^ j ≤ significands * 2 ^ k := by
          calc p * 2 ^ j ≤ 2 * significands * 2 ^ j := Nat.mul_le_mul_right _ p_lt.le
            _ = significands * 2 ^ (j + 1) := by ring
            _ ≤ significands * 2 ^ k :=
              Nat.mul_le_mul_left _ (Nat.pow_le_pow_right two_pos finer)
        exact_mod_cast bound
      have least : (significands : ℚ) * 2 ^ k ≤ ρ * 2 ^ k := mul_le_mul_of_nonneg_right ρ_ge power.le
      calc |(q : ℚ) - ρ| * 2 ^ k ≤ |(significands : ℚ) - ρ| * 2 ^ k :=
            mul_le_mul_of_nonneg_right (nearest _) power.le
        _ = ρ * 2 ^ k - significands * 2 ^ k := by
            rw [← scaled, abs_sub_comm]
            exact abs_of_nonneg (by linarith)
        _ ≤ |(p : ℚ) * 2 ^ j - ρ * 2 ^ k| := by
            rw [abs_sub_comm]
            exact le_trans (by linarith) (le_abs_self _)

/-- What is nearest to a number between two natural numbers lies between them too. -/
theorem between_of_nearest {ρ : ℚ} (nearest : ∀ n : Nat, |(q : ℚ) - ρ| ≤ |(n : ℚ) - ρ|) {n : Nat} :
    (ρ < n → q ≤ n) ∧ ((n : ℚ) ≤ ρ → n ≤ q) := by
  have closer := nearest n
  constructor
  · intro less
    by_contra above
    have far : (n : ℚ) + 1 ≤ q := by exact_mod_cast Nat.lt_of_not_le above
    rw [abs_of_nonneg (by linarith), abs_of_nonneg (by linarith)] at closer
    linarith
  · intro least
    by_contra below
    have far : (q : ℚ) + 1 ≤ n := by exact_mod_cast Nat.lt_of_not_le below
    rw [abs_of_nonpos (by linarith), abs_of_nonpos (by linarith)] at closer
    linarith

/-! ### The exponent -/

/-- Shifting one side or the other is a comparison with a power of two. -/
theorem shiftLeft_le_iff (num den : Nat) (e : ℤ) :
    den <<< e.toNat ≤ num <<< (-e).toNat ↔ (den : ℚ) * 2 ^ e ≤ num := by
  rw [Nat.shiftLeft_eq, Nat.shiftLeft_eq]
  obtain ⟨n, rfl | rfl⟩ := e.eq_nat_or_neg
  · rw [Int.toNat_natCast, Int.toNat_of_nonpos (by omega), zpow_natCast, pow_zero, Nat.mul_one]
    norm_cast
  · rw [neg_neg, Int.toNat_natCast, Int.toNat_of_nonpos (by omega), zpow_neg, zpow_natCast, pow_zero,
      Nat.mul_one, ← div_eq_mul_inv, div_le_iff₀ (by positivity)]
    norm_cast

theorem floorLog2_spec {num den : Nat} (num_pos : 0 < num) (den_pos : 0 < den) :
    (2 : ℚ) ^ floorLog2 num den ≤ num / den ∧ (num : ℚ) / den < 2 ^ (floorLog2 num den + 1) := by
  have den_pos' : (0 : ℚ) < den := Nat.cast_pos.2 den_pos
  have num_ge : (2 : ℚ) ^ (Nat.log2 num : ℤ) ≤ num := by
    rw [zpow_natCast]
    exact_mod_cast Nat.log2_self_le num_pos.ne'
  have num_lt : (num : ℚ) < 2 ^ ((Nat.log2 num : ℤ) + 1) := by
    have bound : num < 2 ^ (Nat.log2 num + 1) := Nat.lt_log2_self
    exact_mod_cast bound
  have den_ge : (2 : ℚ) ^ (Nat.log2 den : ℤ) ≤ den := by
    rw [zpow_natCast]
    exact_mod_cast Nat.log2_self_le den_pos.ne'
  have den_lt : (den : ℚ) < 2 ^ ((Nat.log2 den : ℤ) + 1) := by
    have bound : den < 2 ^ (Nat.log2 den + 1) := Nat.lt_log2_self
    exact_mod_cast bound
  simp only [floorLog2, shiftLeft_le_iff]
  rw [le_div_iff₀' den_pos', div_lt_iff₀' den_pos']
  generalize (Nat.log2 num : ℤ) = a at *
  generalize (Nat.log2 den : ℤ) = b at *
  have two : (2 : ℚ) ≠ 0 := two_ne_zero
  split
  · rename_i least
    refine ⟨least, num_lt.trans_le ?_⟩
    calc (2 : ℚ) ^ (a + 1) = 2 ^ b * 2 ^ (a - b + 1) := by rw [← zpow_add₀ two]; congr 1; ring
      _ ≤ den * 2 ^ (a - b + 1) := mul_le_mul_of_nonneg_right den_ge (by positivity)
  · rename_i less
    rw [sub_add_cancel]
    refine ⟨le_trans ?_ num_ge, lt_of_not_ge less⟩
    calc (den : ℚ) * 2 ^ (a - b - 1) ≤ 2 ^ (b + 1) * 2 ^ (a - b - 1) :=
          mul_le_mul_of_nonneg_right den_lt.le (by positivity)
      _ = 2 ^ a := by rw [← zpow_add₀ two]; congr 1; ring

/-! ### Rounded quotients -/

/-- The magnitude nearest to an absolute value is nearest with the sign, too. -/
theorem isNearest_ofMagnitude {negative : Bool} {m : Nat} {t : ℚ} (finite : m < infinityMagnitude)
    (nonneg : 0 ≤ t) (nearest : ∀ n : Nat, |(units m : ℚ) - t| ≤ |(units n : ℚ) - t|) :
    (ofMagnitude negative m).IsNearest (sign negative * (t / unitsPerOne)) := by
  have word : m < signBit := finite.trans (by decide)
  have target : |sign negative * (t / unitsPerOne)| = t / unitsPerOne := by
    rw [abs_mul, abs_sign, one_mul, abs_of_nonneg (by positivity)]
  have scaled : ∀ u : ℚ, |u / unitsPerOne - t / unitsPerOne| = |u - t| / unitsPerOne := by
    intro u
    rw [← sub_div, abs_div, abs_of_pos unitsPerOne_pos]
  refine ⟨?_, fun y _ => ?_⟩
  · rw [IsFinite, magnitude_ofMagnitude word]
    exact finite
  · calc |(ofMagnitude negative m).value - sign negative * (t / unitsPerOne)|
        = |(units m : ℚ) - t| / unitsPerOne := by
          rw [value_ofMagnitude word, ← mul_sub, abs_mul, abs_sign, one_mul, scaled]
      _ ≤ |(units y.magnitude : ℚ) - t| / unitsPerOne :=
          div_le_div_of_nonneg_right (nearest _) unitsPerOne_pos.le
      _ = abs (|y.value| - |sign negative * (t / unitsPerOne)|) := by
          rw [abs_value, target, scaled]
      _ ≤ |y.value - sign negative * (t / unitsPerOne)| := abs_abs_sub_abs_le_abs_sub _ _

/-- A quotient in units of a power of two is rounded to the nearest natural number, whichever side is
shifted for it. -/
theorem roundHalfEven_shifted (num : Nat) {den : Nat} (den_pos : 0 < den) (k n : Nat) :
    |((if k ≤ 1074 then roundHalfEven (num <<< (1074 - k)) den
        else roundHalfEven num (den <<< (k - 1074)) : Nat) : ℚ) - num / den * unitsPerOne / 2 ^ k| ≤
      |(n : ℚ) - num / den * unitsPerOne / 2 ^ k| := by
  have den_ne : (den : ℚ) ≠ 0 := Nat.cast_ne_zero.2 den_pos.ne'
  generalize top_eq : 1074 = top
  rw [unitsPerOne_eq top_eq.symm]
  push_cast
  split
  · rename_i below
    have shifted : (num : ℚ) / den * 2 ^ top / 2 ^ k = (num <<< (top - k) : Nat) / den := by
      obtain ⟨j, rfl⟩ := Nat.exists_eq_add_of_le below
      rw [Nat.add_sub_cancel_left, Nat.shiftLeft_eq, pow_add]
      push_cast
      field_simp
    rw [shifted]
    exact roundHalfEven_nearest den_pos n
  · rename_i above
    have positive : 0 < den <<< (k - top) := by
      rw [Nat.shiftLeft_eq]
      positivity
    have shifted : (num : ℚ) / den * 2 ^ top / 2 ^ k = num / (den <<< (k - top) : Nat) := by
      obtain ⟨j, rfl⟩ := Nat.exists_eq_add_of_le (Nat.le_of_not_le above)
      rw [Nat.add_sub_cancel_left, Nat.shiftLeft_eq, pow_add]
      push_cast
      field_simp
    rw [shifted]
    exact roundHalfEven_nearest positive n

theorem floorLog2_lt {num den : Nat} {n : ℤ} (num_pos : 0 < num) (den_pos : 0 < den)
    (small : (num : ℚ) / den < 2 ^ n) : floorLog2 num den < n := by
  rw [← zpow_lt_zpow_iff_right₀ (one_lt_two : (1 : ℚ) < 2)]
  exact (floorLog2_spec num_pos den_pos).1.trans_lt small

/-- In units of a power of two that is large enough, a quotient has 53 bits before the point, and
fewer only with the least exponent. -/
theorem scaled_bounds {num den : Nat} (num_pos : 0 < num) (den_pos : 0 < den)
    (exponent : (floorLog2 num den + 1022).toNat = k) :
    (num : ℚ) / den * unitsPerOne / 2 ^ k < (2 * significands : Nat) ∧
      (k = 0 ∨ ((significands : Nat) : ℚ) ≤ num / den * unitsPerOne / 2 ^ k) := by
  obtain ⟨least, less⟩ := floorLog2_spec num_pos den_pos
  generalize floorLog2 num den = e at *
  have power : (0 : ℚ) < 2 ^ k := by positivity
  have two : (2 : ℚ) ≠ 0 := two_ne_zero
  generalize top_eq : 1074 = top
  have units_eq : (unitsPerOne : ℚ) = 2 ^ (top : ℤ) := by
    rw [unitsPerOne_eq top_eq.symm]
    norm_cast
  have top_pos : (0 : ℚ) < 2 ^ (top : ℤ) := by positivity
  rw [units_eq, div_lt_iff₀ power, le_div_iff₀ power]
  constructor
  · calc (num : ℚ) / den * 2 ^ (top : ℤ) < 2 ^ (e + 1) * 2 ^ (top : ℤ) :=
          mul_lt_mul_of_pos_right less top_pos
      _ = 2 ^ (e + 1 + top) := (zpow_add₀ two _ _).symm
      _ ≤ 2 ^ (53 + k : ℤ) := zpow_le_zpow_right₀ one_le_two (by omega)
      _ = (2 * significands : Nat) * 2 ^ k := by
          rw [zpow_add₀ two, zpow_natCast]
          norm_num [significands]
  · refine or_iff_not_imp_left.2 fun normal => ?_
    calc ((significands : Nat) : ℚ) * 2 ^ k = 2 ^ (52 + k : ℤ) := by
          rw [zpow_add₀ two, zpow_natCast]
          norm_num [significands]
      _ ≤ 2 ^ (e + top) := zpow_le_zpow_right₀ one_le_two (by omega)
      _ = 2 ^ e * 2 ^ (top : ℤ) := zpow_add₀ two _ _
      _ ≤ num / den * 2 ^ (top : ℤ) := mul_le_mul_of_nonneg_right least top_pos.le

/-- A quotient is rounded to the nearest number. -/
theorem isNearest_ofRatio (negative : Bool) {num den : Nat} (den_pos : 0 < den) {n : ℤ}
    (n_le : n ≤ 1023) (small : (num : ℚ) / den < 2 ^ n) :
    (ofRatio negative num den).IsNearest (sign negative * (num / den)) := by
  rcases Nat.eq_zero_or_pos num with rfl | num_pos
  · have zero : (ofMagnitude negative 0).IsNearest (sign negative * (0 / unitsPerOne)) :=
      isNearest_ofMagnitude (by decide) le_rfl fun n => by simp
    simpa [ofRatio] using zero
  have nearest := roundHalfEven_shifted num den_pos (floorLog2 num den + 1022).toNat
  have exponent_lt := floorLog2_lt num_pos den_pos small
  obtain ⟨upper, lower⟩ := scaled_bounds num_pos den_pos rfl
  rw [ofRatio, if_neg num_pos.ne']
  simp only [Nat.max_eq_left (Nat.succ_le_of_lt den_pos)]
  generalize floorLog2 num den = e at *
  generalize exponent : (e + 1022).toNat = k at *
  generalize (if k ≤ 1074 then _ else _ : Nat) = q at *
  have power : (0 : ℚ) < 2 ^ k := by positivity
  have q_le : q ≤ 2 * significands := (between_of_nearest nearest).1 upper
  have normal := lower.imp_right fun ge => And.intro ((between_of_nearest nearest).2 ge) ge
  have finite : k * significands + q < infinityMagnitude := by
    simp only [infinityMagnitude, significands] at q_le ⊢
    omega
  rw [Nat.min_eq_left finite.le]
  have scaled : (num : ℚ) / den = num / den * unitsPerOne / 2 ^ k * 2 ^ k / unitsPerOne := by
    rw [div_mul_cancel₀ _ power.ne', mul_div_cancel_right₀ _ unitsPerOne_pos.ne']
  rw [scaled]
  exact isNearest_ofMagnitude finite (by positivity) (units_nearest nearest q_le normal)

theorem isNaN_of_isFinite (h : x.IsFinite) : x.isNaN = false :=
  decide_eq_false (Nat.not_lt.2 (Nat.le_of_lt h))

theorem isInfinite_of_isFinite (h : x.IsFinite) : x.isInfinite = false :=
  decide_eq_false (Nat.ne_of_lt h)

theorem value_eq_zero_iff : x.value = 0 ↔ x.isZero := by
  have mono : units x.magnitude = 0 ↔ x.magnitude = 0 := strictMono_units.injective.eq_iff' rfl
  rw [← abs_eq_zero, abs_value, div_eq_zero_iff, Nat.cast_eq_zero, mono, isZero, decide_eq_true_iff]
  simp [unitsPerOne_pos.ne']

theorem value_eq_sign_mul_abs (x : Binary64) : x.value = sign x.negative * |x.value| := by
  rw [abs_value, value]

/-- The quotient of two finite numbers is rounded once. -/
theorem isNearest_div (x_finite : x.IsFinite) (y_finite : y.IsFinite) (nonzero : y.value ≠ 0) {n : ℤ}
    (n_le : n ≤ 1023) (small : |x.value| / |y.value| < 2 ^ n) :
    (x.div y).IsNearest (x.value / y.value) := by
  have y_nonzero : y.isZero = false := by
    rw [← Bool.not_eq_true, ← value_eq_zero_iff]
    exact nonzero
  have units_pos' : 0 < y.ratio.1 := by
    refine Nat.pos_of_ne_zero fun zero => nonzero ?_
    rw [← abs_eq_zero, abs_value_eq_ratio, zero, Nat.cast_zero, zero_div]
  have ratio_pos : ∀ z : Binary64, (0 : ℚ) < z.ratio.2 := by
    intro z
    have same : z.ratio.2 = unitsPerOne := by rw [unitsPerOne]; rfl
    rw [same]
    exact unitsPerOne_pos
  have quotient : |x.value| / |y.value| =
      (x.ratio.1 * y.ratio.2 : Nat) / (x.ratio.2 * y.ratio.1 : Nat) := by
    rw [abs_value_eq_ratio, abs_value_eq_ratio]
    push_cast
    rw [div_div_div_eq]
  have den_pos : 0 < x.ratio.2 * y.ratio.1 :=
    Nat.mul_pos (Nat.cast_pos.1 (ratio_pos x)) units_pos'
  have signs : sign (x.negative != y.negative) * (|x.value| / |y.value|) = x.value / y.value := by
    rw [value_eq_sign_mul_abs x, value_eq_sign_mul_abs y]
    cases x.negative <;> cases y.negative <;> simp [sign, neg_div, div_neg]
  rw [quotient] at small
  have rounded := isNearest_ofRatio (x.negative != y.negative) den_pos n_le small
  rw [← quotient, signs] at rounded
  rw [div]
  simpa [isNaN_of_isFinite, isInfinite_of_isFinite, x_finite, y_finite, y_nonzero] using rounded

/-! ### Integers -/

/-- A value of the format is nearest only to itself. -/
theorem IsNearest.value_eq (h : x.IsNearest r) (y_finite : y.IsFinite) (exact_ : y.value = r) :
    x.value = r := by
  have closest := h.2 y y_finite
  rw [exact_, sub_self, abs_zero] at closest
  exact sub_eq_zero.1 (abs_nonpos_iff.1 closest)

/-- Integers of 53 bits are values of the format. -/
theorem exists_value_eq (negative : Bool) {n : Nat} (h : n < 2 * significands) :
    ∃ y : Binary64, y.IsFinite ∧ y.value = sign negative * n := by
  rcases Nat.eq_zero_or_pos n with rfl | positive
  · exact ⟨zero, by decide, by simp⟩
  have log_le : Nat.log2 n ≤ 52 := by
    have bound : n < 2 ^ 53 := h
    have log_lt := (Nat.log2_lt positive.ne').2 bound
    omega
  have least : 2 ^ Nat.log2 n ≤ n := Nat.log2_self_le positive.ne'
  have less : n < 2 ^ (Nat.log2 n + 1) := Nat.lt_log2_self
  generalize Nat.log2 n = e at *
  have top_bit : 2 ^ e * 2 ^ (52 - e) = significands := by
    rw [← pow_add, Nat.add_sub_cancel' log_le]
    rfl
  have q_ge : significands ≤ n * 2 ^ (52 - e) := by
    rw [← top_bit]
    exact Nat.mul_le_mul_right _ least
  have q_le : n * 2 ^ (52 - e) ≤ 2 * significands := by
    calc n * 2 ^ (52 - e) ≤ 2 ^ (e + 1) * 2 ^ (52 - e) := Nat.mul_le_mul_right _ less.le
      _ = 2 * (2 ^ e * 2 ^ (52 - e)) := by ring
      _ = 2 * significands := by rw [top_bit]
  have finite : (1022 + e) * significands + n * 2 ^ (52 - e) < infinityMagnitude := by
    simp only [infinityMagnitude, significands] at q_le ⊢
    omega
  have word := finite.trans (by decide : infinityMagnitude < signBit)
  refine ⟨ofMagnitude negative ((1022 + e) * significands + n * 2 ^ (52 - e)), ?_, ?_⟩
  · rw [IsFinite, magnitude_ofMagnitude word]
    exact finite
  · rw [value_ofMagnitude word, units_mul_add q_le (.inr q_ge)]
    congr 1
    rw [div_eq_iff unitsPerOne_pos.ne']
    generalize top_eq : 1074 = top
    have exponents : top = 52 - e + (1022 + e) := by omega
    rw [unitsPerOne_eq top_eq.symm, exponents, mul_assoc, ← pow_add]
    push_cast
    rfl

theorem sign_mul_natAbs (n : ℤ) : sign (decide (n < 0)) * (n.natAbs : ℚ) = n := by
  rw [Nat.cast_natAbs]
  by_cases negative : n < 0
  · simp [sign, negative, abs_of_neg negative]
  · simp [sign, negative, abs_of_nonneg (Int.not_lt.1 negative)]

/-- An integer is rounded to the nearest number. -/
theorem isNearest_ofInt {n k : ℤ} (k_le : k ≤ 1023) (small : (n.natAbs : ℚ) < 2 ^ k) :
    (ofInt n).IsNearest n := by
  have rounded := isNearest_ofRatio (decide (n < 0)) Nat.one_pos k_le
    (by rwa [Nat.cast_one, div_one] : (n.natAbs : ℚ) / (1 : Nat) < 2 ^ k)
  rwa [Nat.cast_one, div_one, sign_mul_natAbs] at rounded

/-- Integers of 53 bits are exact. -/
theorem value_ofInt {n : ℤ} (h : n.natAbs < 2 * significands) :
    (ofInt n).IsFinite ∧ (ofInt n).value = n := by
  have small : (n.natAbs : ℚ) < 2 ^ (53 : ℤ) := by
    have bound : n.natAbs < 2 ^ 53 := h
    exact_mod_cast bound
  have nearest := isNearest_ofInt (by norm_num) small
  obtain ⟨y, y_finite, value_eq⟩ := exists_value_eq (decide (n < 0)) h
  exact ⟨nearest.1, nearest.value_eq y_finite (value_eq.trans (sign_mul_natAbs n))⟩

theorem value_ofNat {n : Nat} (h : n < 2 * significands) :
    (ofNat n).IsFinite ∧ (ofNat n).value = n := by
  have nonneg : decide ((n : ℤ) < 0) = false := decide_eq_false (Int.not_lt.2 (Int.natCast_nonneg n))
  have same : ofInt n = ofNat n := by rw [ofInt, nonneg, Int.natAbs_natCast, ofNat]
  have exact_ : (ofInt n).IsFinite ∧ (ofInt n).value = (n : ℤ) := value_ofInt (by simpa using h)
  rwa [same, Int.cast_natCast] at exact_

end WorkQueue.Binary64
