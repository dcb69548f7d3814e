import WorkQueue.Worker.Loop
import Mathlib.Data.List.Induction

/-!
# The loops of one worker

Callers may run a worker and ask it to stop at any time. A loop that starts takes the running flag
and gives it back when it ends; a stop clears the same flag. So the flag keeps a second loop out as
long as nobody runs the worker between a stop and the end of the loop that was stopped. A run in
between is accepted, and the two loops then share one flag, which the first one takes for its own.

## Main definitions

* `Worker.Loops`: what the loops of a worker share, and where each of them stands
* `Worker.Loops.Event`, `Worker.Loops.after`: calls and moves in any order
* `Worker.Loops.Orderly`: no run between a stop and the end of the stopped loop

## Main statements

* `Worker.Loops.Exclusive.next`: what an event keeps
* `Worker.Loops.run_refused_iff`: when a further run is refused
* `Worker.Loops.two_loops`: a run after a stop starts a second loop
-/

namespace WorkQueue.Worker

/-- What the loops of a worker share, and where each of them stands, oldest first. -/
structure Loops where
  signals : Signals := {}
  phases : List Loop.Phase := []
  deriving DecidableEq

namespace Loops

/-- A move of one loop. -/
inductive Move where
  /-- Tests the running flag, or gives it back. -/
  | advance
  | batchEnds (skipWait : Bool)
  | pollIntervalEnds
  /-- Notices a permit. -/
  | wakes
  /-- Notices a stop, although there may be a wake-up as well. -/
  | stops
  deriving DecidableEq

/-- The move of a loop that stands in a phase, if it can make it there. -/
def Move.lead? (s : Signals) : Move → Loop.Phase → Option (Signals × Loop.Phase)
  | .advance, phase => some (Loop.advance s phase)
  | .batchEnds skipWait, .batch => some (s, .settled skipWait)
  | .pollIntervalEnds, .parked => some (s, Loop.afterWait .pollInterval)
  | .wakes, .parked => (Loop.wake? s).map fun (reason, s) => (s, Loop.afterWait reason)
  | .stops, .parked =>
    if s.stopPermit then some ({ s with stopPermit := false }, Loop.afterWait .stop) else none
  | _, _ => none

/-- A call of the worker, an enqueue, or a move of the loop at a position. -/
inductive Event where
  | run
  | requestStop
  | enqueued
  | moves (i : Nat) (move : Move)
  deriving DecidableEq

/-- The loops after an event; a move that cannot be made changes nothing. -/
def next (l : Loops) : Event → Loops
  | .run =>
    let (accepted, signals) := l.signals.begin_
    { signals := signals, phases := if accepted then l.phases ++ [.top] else l.phases }
  | .requestStop => { l with signals := l.signals.stop }
  | .enqueued => { l with signals := l.signals.wake }
  | .moves i move =>
    match l.phases[i]?.bind (move.lead? l.signals) with
    | none => l
    | some (signals, phase) => { signals := signals, phases := l.phases.set i phase }

/-- The loops of a new worker after events. -/
def after (events : List Event) : Loops := events.foldl next {}

/-- How many loops have not returned. -/
def active (l : Loops) : Nat := l.phases.countP (· ≠ .returned)

/-- What is answered at once to a caller that runs the worker. -/
def reply (worker : String) (l : Loops) : Outcome Unit :=
  if l.signals.begin_.1 then .ok () else .error (alreadyRunning worker)

/-- A stop has been requested since the worker was run for the last time. -/
def stopPending (events : List Event) : Bool :=
  (events.filter fun e => e = .run ∨ e = .requestStop).getLast? = some .requestStop

/-- Nobody runs the worker between a stop and the end of the loop that was stopped. -/
def Orderly (events : List Event) : Prop :=
  ∀ n < events.length, events[n]? = some .run →
    (after (events.take n)).active = 0 ∨ stopPending (events.take n) = false

instance (events : List Event) : Decidable (Orderly events) :=
  inferInstanceAs (Decidable (∀ n < events.length, _))

variable {l : Loops} {events : List Event} {pending : Bool}

/-! ### What an event keeps -/

/-- A loop gives back the flag when it returns; no other move changes the flag or ends a loop. -/
theorem Move.lead?_cases {s s' : Signals} {move : Move} {phase phase' : Loop.Phase}
    (h : move.lead? s phase = some (s', phase')) :
    (phase = .leaving ∧ phase' = .returned ∧ s'.running = false) ∨
      ((phase' = .returned ↔ phase = .returned) ∧ s'.running = s.running) := by
  cases move with
  | advance =>
    obtain ⟨rfl, rfl⟩ := Prod.mk.inj (Option.some.inj h)
    cases phase with
    | leaving => exact .inl ⟨rfl, rfl, rfl⟩
    | top =>
      refine .inr ⟨?_, rfl⟩
      cases s.running <;> simp
    | settled skipWait =>
      refine .inr ⟨?_, rfl⟩
      cases s.running <;> cases skipWait <;> simp
    | batch | parked | returned => exact .inr ⟨Iff.rfl, rfl⟩
  | batchEnds skipWait =>
    cases phase with
    | batch =>
      obtain ⟨rfl, rfl⟩ := Prod.mk.inj (Option.some.inj h)
      exact .inr ⟨by simp, rfl⟩
    | top | settled | parked | leaving | returned => cases h
  | pollIntervalEnds =>
    cases phase with
    | parked =>
      obtain ⟨rfl, rfl⟩ := Prod.mk.inj (Option.some.inj h)
      exact .inr ⟨by simp [Loop.afterWait], rfl⟩
    | top | batch | settled | leaving | returned => cases h
  | wakes =>
    cases phase with
    | parked =>
      refine .inr ?_
      simp only [lead?, Loop.wake?] at h
      split at h
      · obtain ⟨rfl, rfl⟩ := Prod.mk.inj (Option.some.inj h)
        simp [Loop.afterWait]
      · split at h
        · obtain ⟨rfl, rfl⟩ := Prod.mk.inj (Option.some.inj h)
          simp [Loop.afterWait]
        · cases h
    | top | batch | settled | leaving | returned => cases h
  | stops =>
    cases phase with
    | parked =>
      refine .inr ?_
      simp only [lead?] at h
      split at h
      · obtain ⟨rfl, rfl⟩ := Prod.mk.inj (Option.some.inj h)
        simp [Loop.afterWait]
      · cases h
    | top | batch | settled | leaving | returned => cases h

/-- At most one loop is active, and the flag is set while one is and no stop is pending. -/
structure Exclusive (l : Loops) (pending : Bool) : Prop where
  active_le : l.active ≤ 1
  running_iff : l.signals.running = true ↔ l.active = 1 ∧ pending = false

/-- A loop moves on: the others stand where they stood. -/
theorem active_set {i : Nat} {phase : Loop.Phase} (signals : Signals)
    (found : l.phases[i]? = some phase) (phase' : Loop.Phase) :
    (⟨signals, l.phases.set i phase'⟩ : Loops).active + (if phase = .returned then 0 else 1) =
      l.active + (if phase' = .returned then 0 else 1) := by
  obtain ⟨inside, rfl⟩ := List.getElem?_eq_some_iff.1 found
  unfold active
  rw [List.countP_set inside]
  have counted : l.phases[i] ≠ .returned → 0 < l.phases.countP (· ≠ .returned) := fun active =>
    List.countP_pos_iff.2 ⟨_, List.getElem_mem inside, by simpa using active⟩
  generalize l.phases.countP (· ≠ .returned) = n at counted ⊢
  by_cases before : l.phases[i] = .returned
  · by_cases now : phase' = .returned <;> simp [before, now]
  · have positive := counted before
    by_cases now : phase' = .returned
    · simp [before, now]
      omega
    · simp [before, now]
      omega

theorem Exclusive.run (exclusive : Exclusive l pending) (orderly : l.active = 0 ∨ pending = false) :
    Exclusive (l.next .run) false := by
  obtain ⟨bound, flag⟩ := exclusive
  cases running : l.signals.running with
  | true =>
    have refused : l.next .run = { l with signals := { l.signals with running := true } } := by
      simp [next, Signals.begin_, running]
    rw [refused]
    exact ⟨bound, iff_of_true rfl ⟨(flag.1 running).1, rfl⟩⟩
  | false =>
    have none_active : l.active = 0 := by
      rcases orderly with none_active | clear
      · exact none_active
      · have idle : ¬ l.active = 1 := fun one => by simpa [running] using flag.2 ⟨one, clear⟩
        omega
    have accepted : l.next .run =
        ⟨{ l.signals with running := true }, l.phases ++ [.top]⟩ := by
      simp [next, Signals.begin_, running]
    have one : (l.next .run).active = 1 := by
      rw [accepted, active, List.countP_append]
      exact congrArg (· + 1) none_active
    exact ⟨Nat.le_of_eq one, iff_of_true (by rw [accepted]) ⟨one, rfl⟩⟩

theorem Exclusive.requestStop (exclusive : Exclusive l pending) :
    Exclusive (l.next .requestStop) true :=
  ⟨exclusive.active_le, by simp [next, Signals.stop]⟩

theorem Exclusive.enqueued (exclusive : Exclusive l pending) :
    Exclusive (l.next .enqueued) pending :=
  ⟨exclusive.active_le, exclusive.running_iff⟩

theorem Exclusive.moves (exclusive : Exclusive l pending) (i : Nat) (move : Move) :
    Exclusive (l.next (.moves i move)) pending := by
  obtain ⟨bound, flag⟩ := exclusive
  cases moved : l.phases[i]?.bind (move.lead? l.signals) with
  | none =>
    have same : l.next (.moves i move) = l := by simp [next, moved]
    rw [same]
    exact ⟨bound, flag⟩
  | some result =>
    obtain ⟨signals, phase'⟩ := result
    have moves : l.next (.moves i move) = ⟨signals, l.phases.set i phase'⟩ := by simp [next, moved]
    obtain ⟨phase, found, applied⟩ := Option.bind_eq_some_iff.1 moved
    have count := active_set signals found phase'
    rw [moves]
    rcases move.lead?_cases applied with ⟨rfl, rfl, cleared⟩ | ⟨same, kept⟩
    · -- the loop that returns was the only one
      rw [if_neg (by decide), if_pos rfl] at count
      exact ⟨by omega, iff_of_false (by simp [cleared]) fun h => by omega⟩
    · simp only [same, Nat.add_right_cancel_iff] at count
      exact ⟨by omega, by rw [count, kept]; exact flag⟩

/-! ### Events in any order -/

theorem after_concat (events : List Event) (e : Event) :
    after (events ++ [e]) = (after events).next e := by
  rw [after, List.foldl_append]
  rfl

theorem stopPending_concat (events : List Event) (e : Event) : stopPending (events ++ [e]) =
    if e = .run then false else if e = .requestStop then true else stopPending events := by
  cases e <;> simp [stopPending]

theorem Orderly.split {e : Event} (orderly : Orderly (events ++ [e])) : Orderly events ∧
    (e = .run → (after events).active = 0 ∨ stopPending events = false) := by
  constructor
  · intro n inside call
    have earlier := orderly n (by simp; omega)
    rw [List.getElem?_append_left inside,
      List.take_append_of_le_length (Nat.le_of_lt inside)] at earlier
    exact earlier call
  · rintro rfl
    have last := orderly events.length (by simp)
    rw [List.getElem?_concat_length, List.take_left] at last
    exact last rfl

/-- After orderly events, at most one loop is active. -/
theorem exclusive_after (orderly : Orderly events) :
    Exclusive (after events) (stopPending events) := by
  induction events using List.reverseRecOn with
  | nil => exact ⟨Nat.zero_le _, by decide⟩
  | append_singleton events e ih =>
    obtain ⟨earlier, call⟩ := orderly.split
    rw [after_concat, stopPending_concat]
    cases e with
    | run => exact (ih earlier).run (call rfl)
    | requestStop => exact (ih earlier).requestStop
    | enqueued => exact (ih earlier).enqueued
    | moves i move => exact (ih earlier).moves i move

/-- Of a worker that is not run between a stop and the end of the stopped loop, at most one loop is
active. While it is, a further run is refused if and only if no stop is pending. -/
theorem run_refused_iff (orderly : Orderly events) : (after events).active ≤ 1 ∧
    (0 < (after events).active → ∀ worker,
      (after events).reply worker = .error (alreadyRunning worker) ↔
        stopPending events = false) := by
  obtain ⟨bound, flag⟩ := exclusive_after orderly
  refine ⟨bound, fun active worker => ?_⟩
  have one : (after events).active = 1 := by omega
  rw [one, eq_self, true_and] at flag
  rw [← flag]
  cases running : (after events).signals.running <;> simp [reply, Signals.begin_, running]

/-- A loop is stopped and ends, then the worker is run again. -/
def restart : List Event :=
  [.run, .moves 0 .advance, .requestStop, .moves 0 (.batchEnds false), .moves 0 .advance,
    .moves 0 .advance, .run]

theorem run_refused_of_restart : (after restart).active = 1 ∧
    ∀ worker, (after restart).reply worker = .error (alreadyRunning worker) :=
  ⟨by decide, fun worker => ((run_refused_iff (by decide)).2 (by decide) worker).2 (by decide)⟩

/-- A loop is stopped in the middle of a batch. -/
def stopped : List Event := [.run, .moves 0 .advance, .requestStop]

/-- The worker can be run again before the batch ends; then the first loop goes on as well. -/
theorem two_loops : (after stopped).phases = [.batch] ∧
    (∀ worker, (after stopped).reply worker = .ok ()) ∧
    (after (stopped ++ [.run])).active = 2 ∧
    (after (stopped ++ [.run, .moves 0 (.batchEnds true), .moves 0 .advance])).phases =
      [.top, .top] :=
  ⟨by decide, fun _ => rfl, by decide, by decide⟩

end Loops

end WorkQueue.Worker
