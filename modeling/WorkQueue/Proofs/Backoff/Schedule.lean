import WorkQueue.Backoff

/-!
# Retry schedules

The delay before a retry is computed with products that saturate and an exponent that is cut off, and
the instant of the retry with an addition that may leave the calendar. None of this shows: the cap is
reached long before a product saturates or the exponent is cut, so the delay is the one of unbounded
numbers, and the instant is that delay later, or the latest one there is.

## Main definitions

* `Backoff.Policy.idealDelay`: the delay over unbounded integers
* `Timestamp.IsAfter`, `Timestamp.DelayOver`: an instant some seconds later, and the end of a delay

## Main statements

* `Backoff.Policy.delaySeconds_eq`: the computed delay is the ideal one
* `Backoff.Policy.retryAt_le_iff`: the retry instant is the end of the ideal delay
-/

namespace WorkQueue

/-! ### Later instants -/

namespace Timestamp

variable {t r : Timestamp} {seconds : Int} {n : Nat}

/-- The second instant is a number of whole seconds after the first one. A leap second is left at the
nanosecond that it had reached. -/
def IsAfter (t : Timestamp) (seconds : Int) (r : Timestamp) : Prop :=
  r.second = t.second + seconds ∧ r.nano = if seconds = 0 then t.nano else t.nano % 1000000000

/-- A number of whole seconds after the first instant have passed at the second one. If the end of
this time is beyond the calendar, the second instant is the latest one, or in a leap second after
it. -/
def DelayOver (t : Timestamp) (seconds : Int) (now : Timestamp) : Prop :=
  (∃ r, t.IsAfter seconds r ∧ r ≤ now) ∨
    maxSecond < t.second + seconds ∧ latest ≤ now ∧ (now.nano < 1000000000 → now = latest)

theorem eq_of_parts (second : t.second = r.second) (nano : t.nano = r.nano) : t = r := by
  obtain ⟨_, _, _, _, _⟩ := t
  obtain ⟨_, _, _, _, _⟩ := r
  obtain rfl := second
  obtain rfl := nano
  rfl

theorem IsAfter.unique {r' : Timestamp} (h : t.IsAfter seconds r) (h' : t.IsAfter seconds r') :
    r = r' :=
  eq_of_parts (h.1.trans h'.1.symm) (h.2.trans h'.2.symm)

theorem IsAfter.le_maxSecond (h : t.IsAfter seconds r) : t.second + seconds ≤ maxSecond :=
  h.1 ▸ r.le_maxSecond

theorem addSeconds?_eq_some (h : t.addSeconds? n = some r) : t.IsAfter n r := by
  unfold addSeconds? at h
  split at h
  · rename_i zero
    obtain rfl := Option.some.inj h
    simp [IsAfter, zero]
  · rename_i positive
    unfold ofParts? at h
    split at h
    · obtain rfl := Option.some.inj h
      exact ⟨rfl, by simp [positive]⟩
    · cases h

/-- An addition leaves the calendar only at its end. -/
theorem addSeconds?_eq_none (h : t.addSeconds? n = none) : maxSecond < t.second + n := by
  unfold addSeconds? at h
  split at h
  · cases h
  · unfold ofParts? at h
    split at h
    · cases h
    · rename_i outside
      have nano_lt : t.nano % 1000000000 < 2000000000 := by omega
      have minSecond_le := t.minSecond_le
      omega

theorem eq_latest (h : latest ≤ t) (regular : t.nano < 1000000000) : t = latest := by
  have le := le_latest regular
  rw [le_iff] at h le
  have same : t.second = latest.second ∧ t.nano = latest.nano := by omega
  exact eq_of_parts same.1 same.2

end Timestamp

/-! ### Delays -/

namespace Backoff

/-- The growth of the delay, over unbounded integers. -/
def Strategy.growth : Strategy → Int → Int → Int
  | .linear, base, attempts => base * attempts
  | .exponential, base, attempts => base * Nat.pow 2 (attempts - 1).toNat

namespace Policy

variable {p : Policy} {base attempts : Int} {type : TaskType} {now t : Timestamp}

/-- The delay over unbounded integers: it grows with the attempts, up to the policy's own cap, which
counts as zero when it is negative and is never more than `maxDelay`. -/
def idealDelay (p : Policy) (base attempts : Int) : Int :=
  min (p.strategy.growth base attempts) (max 0 (min p.maxDelaySeconds maxDelay))

theorem cap_le : p.cap ≤ maxDelay := by
  simp only [cap, maxDelay]
  omega

theorem maxDelay_lt_pow : maxDelay < (Nat.pow 2 62 : Nat) := by decide

theorem maxDelay_lt_wordMax : maxDelay < wordMax := by decide

/-- What reaches the cap is capped, saturated or not. -/
theorem min_saturatingMul (a b : Int) : min (saturatingMul a b) p.cap = min (a * b) p.cap := by
  have := p.cap_le
  have := maxDelay_lt_wordMax
  unfold saturatingMul
  omega

/-- An exponent that is cut off belongs to a delay beyond the cap, or to no delay at all. -/
theorem min_mul_pow (nonneg : 0 ≤ base) {n m : Nat} (cut : 62 ≤ n) (far : 62 ≤ m) :
    min (base * (Nat.pow 2 n : Nat)) p.cap = min (base * (Nat.pow 2 m : Nat)) p.cap := by
  rcases Int.lt_or_eq_of_le nonneg with positive | rfl
  · have beyond : ∀ k, 62 ≤ k → p.cap ≤ base * (Nat.pow 2 k : Nat) := by
      intro k hk
      have power : (Nat.pow 2 62 : Nat) ≤ (Nat.pow 2 k : Nat) :=
        Nat.pow_le_pow_right (Nat.succ_pos 1) hk
      have once : (1 : Int) * (Nat.pow 2 k : Nat) ≤ base * (Nat.pow 2 k : Nat) :=
        Int.mul_le_mul_of_nonneg_right positive (Int.natCast_nonneg _)
      have := p.cap_le
      have := maxDelay_lt_pow
      omega
    rw [Int.min_eq_right (beyond n cut), Int.min_eq_right (beyond m far)]
  · rw [Int.zero_mul, Int.zero_mul]

/-- The computed delay is the ideal one, whatever the numbers: a negative base counts as zero, and
the attempts as one when they are fewer. -/
theorem delaySeconds_eq (p : Policy) (base attempts : Int) :
    p.delaySeconds base attempts = p.idealDelay (max base 0) (max attempts 1) := by
  have nonneg : 0 ≤ max base 0 := Int.le_max_right _ _
  simp only [delaySeconds, idealDelay, Strategy.growth]
  generalize max base 0 = b at nonneg
  generalize max attempts 1 = n
  show min _ p.cap = min _ p.cap
  cases p.strategy with
  | linear => exact min_saturatingMul b n
  | exponential =>
    simp only [min_saturatingMul]
    rcases Int.le_total (n - 1) 62 with small | far
    · rw [Int.min_eq_left small]
    · have cut : min (n - 1) 62 = 62 := Int.min_eq_right far
      rw [cut]
      exact min_mul_pow nonneg (Nat.le_refl 62) (by omega)

theorem idealDelay_nonneg (nonneg : 0 ≤ base) (positive : 1 ≤ attempts) :
    0 ≤ p.idealDelay base attempts := by
  have grown : 0 ≤ p.strategy.growth base attempts := by
    cases p.strategy with
    | linear => exact Int.mul_nonneg nonneg (by omega)
    | exponential => exact Int.mul_nonneg nonneg (Int.natCast_nonneg _)
  simp only [idealDelay]
  omega

theorem idealDelay_le : p.idealDelay base attempts ≤ maxDelay := by
  simp only [idealDelay, maxDelay]
  omega

theorem delaySeconds_bounds (p : Policy) (base attempts : Int) :
    0 ≤ p.delaySeconds base attempts ∧ p.delaySeconds base attempts ≤ maxDelay := by
  rw [delaySeconds_eq]
  exact ⟨idealDelay_nonneg (Int.le_max_right _ _) (Int.le_max_right _ _), idealDelay_le⟩

/-- Every delay can be represented as a span of time. -/
theorem span?_delaySeconds (p : Policy) (base attempts : Int) :
    span? (p.delaySeconds base attempts) = some (p.delaySeconds base attempts) := by
  obtain ⟨nonneg, le⟩ := p.delaySeconds_bounds base attempts
  have : maxDelay ≤ wordMax / 1000 := by decide
  refine IntRange.keep?_eq_some_iff.2 ⟨rfl, ?_, ?_⟩ <;> dsimp only <;> omega

theorem delayFor_eq (p : Policy) (type : TaskType) (attempts : Int) :
    p.delayFor type attempts = p.delaySeconds type.retryBackoffSeconds attempts := by
  rw [delayFor, span?_delaySeconds, Option.getD_some]

/-- The delay is over from the retry instant on, and not before. -/
theorem retryAt_le_iff (nonneg : 0 ≤ type.retryBackoffSeconds) (positive : 1 ≤ attempts) :
    p.retryAt type attempts now ≤ t ↔
      now.DelayOver (p.idealDelay type.retryBackoffSeconds attempts) t := by
  have ideal : p.delayFor type attempts = p.idealDelay type.retryBackoffSeconds attempts := by
    rw [delayFor_eq, delaySeconds_eq, Int.max_eq_left nonneg, Int.max_eq_left positive]
  have counted : (((p.idealDelay type.retryBackoffSeconds attempts).toNat : Nat) : Int) =
      p.idealDelay type.retryBackoffSeconds attempts :=
    Int.toNat_of_nonneg (idealDelay_nonneg nonneg positive)
  rw [retryAt, ideal, ← counted, Int.toNat_natCast]
  cases added : now.addSeconds? (p.idealDelay type.retryBackoffSeconds attempts).toNat with
  | some r =>
    have after := Timestamp.addSeconds?_eq_some added
    constructor
    · intro due
      exact .inl ⟨r, after, due⟩
    · rintro (⟨r', after', due⟩ | ⟨beyond, -⟩)
      · rwa [← after.unique after'] at due
      · exact absurd after.le_maxSecond (Int.not_le.2 beyond)
  | none =>
    have beyond := Timestamp.addSeconds?_eq_none added
    constructor
    · intro due
      exact .inr ⟨beyond, due, Timestamp.eq_latest due⟩
    · rintro (⟨r, after, -⟩ | ⟨-, due, -⟩)
      · exact absurd after.le_maxSecond (Int.not_le.2 beyond)
      · exact due

end Policy

end Backoff

end WorkQueue
