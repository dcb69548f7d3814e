import WorkQueue.Proofs.Backoff.Schedule

/-!
# Retry delays in machine words

The delay is computed in signed words of 64 bits from attempts counted in one of 32 bits. Here the
computation is taken step by step, and each step that has no truncation of its own is refused when
its result is not a word. No step ever is. The two truncations that are there, the product that stays
at the end of the words and the exponent that stays at 62, do not show in the result.

## Main definitions

* `Backoff.Policy.delayInWords?`: the delay, computed step by step in words
* `Backoff.Policy.ExactDelay`, `Backoff.Policy.ExactSchedule`: what the delay is over unbounded
  integers, and what a failure stores

## Main statements

* `Backoff.Policy.arithmetic_exact`: the delay and the schedule are those of unbounded integers
-/

namespace WorkQueue

open IntRange

namespace Backoff

namespace Policy

variable {base attempts : Int}

/-! ### The computation, word by word -/

/-- The exponent for a number of attempts: one less, as an unsigned word of 32 bits or the largest
one, and at most 62. -/
def exponentInWords? (attempts : Int) : Option Nat := do
  let before ← int64.keep? (attempts - 1)
  let unsigned := (nat32.keep? before).getD nat32.hi
  return (min unsigned 62).toNat

/-- The growth of the delay in words. The products stay at the end of the words, the power of two
has to be one. -/
def growthInWords? : Strategy → Int → Int → Option Int
  | .linear, base, attempts => some (int64.clamp (base * attempts))
  | .exponential, base, attempts => do
    let exponent ← exponentInWords? attempts
    let power ← int64.keep? (Nat.pow 2 exponent)
    return int64.clamp (base * power)

/-- The delay, computed step by step: nothing, if the result of a step is not a word. -/
def delayInWords? (p : Policy) (base attempts : Int) : Option Int := do
  let base ← int64.keep? (max base 0)
  let attempts ← int32.keep? (max attempts 1)
  let raw ← growthInWords? p.strategy base attempts
  let cap ← int64.keep? (max 0 (min p.maxDelaySeconds maxDelay))
  int64.keep? (min raw cap)

/-- A product of numbers that are not negative can only leave the words at their upper end. -/
theorem clamp_mul (nonneg : 0 ≤ base) (positive : 0 ≤ attempts) :
    int64.clamp (base * attempts) = saturatingMul base attempts := by
  have product : 0 ≤ base * attempts := Int.mul_nonneg nonneg positive
  simp only [clamp, saturatingMul, wordMax, int64]
  omega

/-- The conversion to an unsigned word never changes the exponent: attempts fit 31 bits. -/
theorem exponentInWords?_eq (positive : 1 ≤ attempts) (word : attempts ≤ int32.hi) :
    exponentInWords? attempts = some (min (attempts - 1) 62).toNat := by
  have upper : attempts ≤ 0x7FFFFFFF := word
  have before : int64.keep? (attempts - 1) = some (attempts - 1) :=
    keep?_eq_some_iff.2 ⟨rfl, by simp only [int64]; omega, by simp only [int64]; omega⟩
  have unsigned : nat32.keep? (attempts - 1) = some (attempts - 1) :=
    keep?_eq_some_iff.2 ⟨rfl, by simp only [nat32]; omega, by simp only [nat32]; omega⟩
  simp only [exponentInWords?, before, unsigned, bind, pure, Option.bind_some, Option.getD_some]

/-- The largest power of two that is ever computed is still a word. -/
theorem keep?_pow {n : Nat} (le : n ≤ 62) :
    int64.keep? (Nat.pow 2 n : Nat) = some (Nat.pow 2 n : Nat) := by
  have power : Nat.pow 2 n ≤ Nat.pow 2 62 := Nat.pow_le_pow_right (Nat.succ_pos 1) le
  have largest : (Nat.pow 2 62 : Nat) ≤ int64.hi := by decide
  have nonneg : (0 : Int) ≤ (Nat.pow 2 n : Nat) := Int.natCast_nonneg _
  refine keep?_eq_some_iff.2 ⟨rfl, ?_, ?_⟩
  · simp only [int64]
    omega
  · omega

theorem growthInWords?_eq (strategy : Strategy) (nonneg : 0 ≤ base) (positive : 1 ≤ attempts)
    (word : attempts ≤ int32.hi) :
    growthInWords? strategy base attempts = some (match strategy with
      | .linear => saturatingMul base attempts
      | .exponential => saturatingMul base (Nat.pow 2 (min (attempts - 1) 62).toNat)) := by
  cases strategy with
  | linear =>
    show some (int64.clamp (base * attempts)) = _
    rw [clamp_mul nonneg (by omega)]
  | exponential =>
    have cut : (min (attempts - 1) 62).toNat ≤ 62 := by omega
    simp only [growthInWords?, exponentInWords?_eq positive word, bind, pure, Option.bind_some,
      keep?_pow cut]
    rw [clamp_mul nonneg (Int.natCast_nonneg _)]

/-- No step of the computation leaves the words, whatever words it starts from. -/
theorem delayInWords?_eq (p : Policy) (hbase : base ≤ int64.hi) (hattempts : attempts ≤ int32.hi) :
    p.delayInWords? base attempts = some (p.delaySeconds base attempts) := by
  obtain ⟨nonneg, le⟩ := p.delaySeconds_bounds base attempts
  have bound : maxDelay ≤ int64.hi := by decide
  have least : int64.lo ≤ 0 := by decide
  have fits : ∀ {n : Int}, 0 ≤ n → n ≤ int64.hi → int64.keep? n = some n := by
    intro n lower upper
    exact keep?_eq_some_iff.2 ⟨rfl, by omega, upper⟩
  have count : int32.keep? (max attempts 1) = some (max attempts 1) := by
    have one : 1 ≤ int32.hi := by decide
    have lower : int32.lo ≤ 1 := by decide
    exact keep?_eq_some_iff.2 ⟨rfl, by omega, by omega⟩
  have growth := growthInWords?_eq p.strategy (Int.le_max_right base 0) (Int.le_max_right attempts 1)
    (by have one : 1 ≤ int32.hi := by decide
        omega)
  have ceiling : int64.keep? p.cap = some p.cap :=
    fits (Int.le_max_left _ _) (by have := p.cap_le; omega)
  have capped : int64.keep? (p.delaySeconds base attempts) = some (p.delaySeconds base attempts) :=
    fits nonneg (by omega)
  simp only [delayInWords?, bind, fits (Int.le_max_right base 0) (by omega), count, growth,
    Option.bind_some]
  show (int64.keep? p.cap).bind _ = _
  rw [ceiling]
  exact capped

/-! ### The instant of the retry -/

end Policy

end Backoff

/-- The end of a delay: that many seconds later, or the latest instant if there is no such one. -/
def Timestamp.EndOfDelay (now : Timestamp) (seconds : Int) (r : Timestamp) : Prop :=
  now.IsAfter seconds r ∨ (¬ ∃ r', now.IsAfter seconds r') ∧ r = latest

/-- A delay ends when it starts or later. Only a leap second in the last second of the calendar is
later than `Timestamp.latest`. -/
theorem Timestamp.EndOfDelay.le {now r : Timestamp} {seconds : Int}
    (h : now.EndOfDelay seconds r) (nonneg : 0 ≤ seconds) (regular : now ≤ latest) : now ≤ r := by
  rcases h with ⟨second, nano⟩ | ⟨-, rfl⟩
  · rw [le_iff]
    by_cases zero : seconds = 0
    · rw [if_pos zero] at nano
      omega
    · left
      omega
  · exact regular

namespace Backoff

namespace Policy

variable {p : Policy} {base attempts : Int} {type : TaskType} {now : Timestamp}

theorem endOfDelay_retryAt (p : Policy) (type : TaskType) (attempts : Int) (now : Timestamp) :
    now.EndOfDelay (p.delaySeconds type.retryBackoffSeconds attempts)
      (p.retryAt type attempts now) := by
  have nonneg := (p.delaySeconds_bounds type.retryBackoffSeconds attempts).1
  rw [retryAt, delayFor_eq]
  generalize p.delaySeconds type.retryBackoffSeconds attempts = delay at nonneg
  obtain ⟨n, rfl⟩ := Int.eq_ofNat_of_zero_le nonneg
  rw [Int.toNat_natCast]
  cases added : now.addSeconds? n with
  | some r => exact .inl (Timestamp.addSeconds?_eq_some added)
  | none =>
    refine .inr ⟨?_, rfl⟩
    rintro ⟨r, after⟩
    exact absurd after.le_maxSecond (Int.not_le.2 (Timestamp.addSeconds?_eq_none added))

/-- The delay for a base and a number of attempts is the one of unbounded integers. -/
structure ExactDelay (p : Policy) (base attempts : Int) : Prop where
  linear : p.strategy = .linear →
    p.delaySeconds base attempts =
      min (max base 0 * max attempts 1) (max 0 (min p.maxDelaySeconds maxDelay))
  exponential : p.strategy = .exponential →
    p.delaySeconds base attempts =
      min (max base 0 * Nat.pow 2 (max attempts 1 - 1).toNat) (max 0 (min p.maxDelaySeconds maxDelay))
  /-- Computed in words, step by step, it is the same: no step leaves them. -/
  in_words : p.delayInWords? base attempts = some (p.delaySeconds base attempts)
  /-- As a span of time it is what it is, so the longest delay never stands in for it. -/
  in_spans : span? (p.delaySeconds base attempts) = some (p.delaySeconds base attempts)

/-- What a failure stores is the time of the failure as the completion, when the attempts are used up,
and otherwise the end of the delay as the retry. -/
structure ExactSchedule (p : Policy) (type : TaskType) (attempts : Int) (now : Timestamp) : Prop where
  delayFor_eq : p.delayFor type attempts = p.delaySeconds type.retryBackoffSeconds attempts
  used_up : type.maxAttempts ≤ attempts → p.failureSchedule type attempts now = (none, some now)
  retried : attempts < type.maxAttempts →
    ∃ r, p.failureSchedule type attempts now = (some r, none) ∧
      now.EndOfDelay (p.delaySeconds type.retryBackoffSeconds attempts) r ∧
      (now ≤ .latest → now ≤ r)

theorem exactDelay (p : Policy) (hbase : base ≤ int64.hi) (hattempts : attempts ≤ int32.hi) :
    p.ExactDelay base attempts := by
  have ideal := p.delaySeconds_eq base attempts
  refine ⟨?_, ?_, p.delayInWords?_eq hbase hattempts, p.span?_delaySeconds base attempts⟩
  · intro linear
    rw [ideal, idealDelay, linear, Strategy.growth]
  · intro exponential
    rw [ideal, idealDelay, exponential, Strategy.growth]

theorem exactSchedule (p : Policy) (type : TaskType) (attempts : Int) (now : Timestamp) :
    p.ExactSchedule type attempts now := by
  have nonneg := (p.delaySeconds_bounds type.retryBackoffSeconds attempts).1
  have ends := p.endOfDelay_retryAt type attempts now
  refine ⟨p.delayFor_eq type attempts, ?_, ?_⟩
  · intro used
    rw [failureSchedule, if_pos used]
  · intro left
    refine ⟨p.retryAt type attempts now, ?_, ends, ends.le nonneg⟩
    rw [failureSchedule, if_neg (Int.not_le.2 left)]

/-- **The arithmetic of retries is exact.** For every base that is a word of 64 bits, every number of
attempts that is one of 32 bits and whatever cap, the delay is the one of unbounded integers, no step
that computes it leaves the words, and it is always a span of time. A failure of a task of any type, at
any time, then stores either its own time as the completion or, as the retry, the end of that delay. -/
theorem arithmetic_exact (p : Policy) (base attempts : Int) (hbase : base ≤ int64.hi)
    (hattempts : attempts ≤ int32.hi) :
    p.ExactDelay base attempts ∧ ∀ type now, p.ExactSchedule type attempts now := by
  constructor
  · exact p.exactDelay hbase hattempts
  · intro type now
    exact p.exactSchedule type attempts now

/-- The largest base, attempts beyond the exponent's cut and no cap of its own: the delay is one year,
and what fails at the start of 1970 is due again a year later. -/
theorem arithmetic_exact_largest :
    let p : Policy := ⟨.exponential, int64.hi⟩
    p.delayInWords? int64.hi 100 = some maxDelay ∧
      ∃ r, p.failureSchedule ⟨"A", 200, int64.hi, none, .epoch⟩ 100 .epoch = (some r, none) ∧
        Timestamp.epoch ≤ r ∧ r.second = 31536000 := by
  intro p
  have year : p.delaySeconds int64.hi 100 = maxDelay := by decide
  obtain ⟨delay, schedule⟩ := arithmetic_exact p int64.hi 100 (by decide) (by decide)
  obtain ⟨r, stored, ends, later⟩ := (schedule ⟨"A", 200, int64.hi, none, .epoch⟩ .epoch).retried
    (by decide)
  refine ⟨by rw [delay.in_words, year], r, stored, later (by decide), ?_⟩
  rcases ends with after | ⟨beyond, -⟩
  · rw [after.1, year]
    rfl
  · refine absurd ⟨⟨31536000, 0, by decide, by decide, by decide⟩, ?_⟩ beyond
    rw [year]
    exact ⟨rfl, by decide⟩

end Policy

end Backoff

end WorkQueue
