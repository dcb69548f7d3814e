import WorkQueue.IntRange
import WorkQueue.TaskType

/-!
# Retry delays

After a failed attempt a task waits before it can be claimed again. The delay grows with the number
of attempts, linearly or by doubling, and is capped.

## Main definitions

* `Backoff.Strategy`, `Backoff.Policy`: how the delay grows, and its cap
* `Backoff.Policy.delaySeconds`, `Backoff.Policy.delayFor`: the delay after a number of attempts, as
  a number and as a span of time
* `Backoff.Policy.retryAt`: the instant from which the task is due again
-/

namespace WorkQueue.Backoff

/-- How the delay grows with the attempts. -/
inductive Strategy where
  /-- The base delay times the attempts. -/
  | linear
  /-- The base delay, doubled with each attempt after the first. -/
  | exponential
  deriving DecidableEq, Inhabited, Repr

def Strategy.name : Strategy → String
  | linear => "linear"
  | exponential => "exponential"

/-- How delays grow and how large they may become. -/
structure Policy where
  strategy : Strategy := .linear
  maxDelaySeconds : Int := 3600
  deriving DecidableEq, Inhabited

/-- No delay exceeds one year, whatever the policy's own cap. -/
def maxDelay : Int := 365 * 24 * 60 * 60

/-- The largest signed integer of 64 bits; products saturate there. -/
def wordMax : Int := IntRange.int64.hi

/-- A product of numbers that are not negative, saturating at `wordMax`. -/
def saturatingMul (a b : Int) : Int := min (a * b) wordMax

/-- A span of time of whole seconds, if it can be represented: its milliseconds have to fit a word
of 64 bits. -/
def span? (seconds : Int) : Option Int := IntRange.keep? ⟨-(wordMax / 1000), wordMax / 1000⟩ seconds

namespace Policy

/-- The cap in force: the policy's own, between zero and `maxDelay`. -/
def cap (p : Policy) : Int := max 0 (min p.maxDelaySeconds maxDelay)

/-- The delay in seconds after the given number of attempts. The base counts as zero when it is
negative, and the attempts as one when they are fewer. -/
def delaySeconds (p : Policy) (base attempts : Int) : Int :=
  let base := max base 0
  let attempts := max attempts 1
  let raw := match p.strategy with
    | .linear => saturatingMul base attempts
    | .exponential => saturatingMul base (Nat.pow 2 (min (attempts - 1) 62).toNat)
  min raw p.cap

/-- The delay of a task type as a span of time; `maxDelay` if it were too long for one. -/
def delayFor (p : Policy) (type : TaskType) (attempts : Int) : Int :=
  (span? (p.delaySeconds type.retryBackoffSeconds attempts)).getD maxDelay

/-- The instant from which a task that failed now is due again, at most the latest instant. -/
def retryAt (p : Policy) (type : TaskType) (attempts : Int) (now : Timestamp) : Timestamp :=
  (now.addSeconds? (p.delayFor type attempts).toNat).getD .latest

/-- What a failure stores: the retry instant and no completion, or the completion alone when the
attempts are used up. -/
def failureSchedule (p : Policy) (type : TaskType) (attempts : Int) (now : Timestamp) :
    Option Timestamp × Option Timestamp :=
  if type.maxAttempts ≤ attempts then (none, some now)
  else (some (p.retryAt type attempts now), none)

end Policy

end WorkQueue.Backoff
