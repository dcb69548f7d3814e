import WorkQueue.Proofs.Worker.Loops

/-!
# Successive runs of one worker

A stop is recorded twice: it clears the running flag, and it leaves a permit for a loop that waits. A
loop that notices the flag between two batches returns and does not take the permit. The permit stays
behind, and the next run takes it for a stop of its own as soon as it waits. So a run ends only on its
own stop if and only if nothing of an earlier stop is left when it begins.

## Main definitions

* `Worker.Signals.lower`, `Worker.Signals.permitStop`: the two halves of a stop
* `Worker.Loops.Lead`: what a move of a loop can do
* `Worker.Runs`, `Worker.Runs.Event`: a worker that is run again and again, one run after the other
* `Worker.Runs.after?`: the worker after calls and moves in any order
* `Worker.Runs.Undisturbed`: a run that nothing asks to end

## Main statements

* `Worker.Runs.Undisturbed.next?`: only a new stop disturbs a run
* `Worker.Runs.ends_on_own_stop_iff`: when a run ends only on its own stop
* `Worker.Runs.ends_on_earlier_stop`: a run that ends although nobody has stopped it
-/

namespace WorkQueue.Worker

namespace Signals

/-- The first half of a stop: the running flag is cleared. -/
def lower (s : Signals) : Signals := { s with running := false }

/-- The second half of a stop: a permit is left for a loop that waits. -/
def permitStop (s : Signals) : Signals := { s with stopPermit := true }

theorem permitStop_lower (s : Signals) : s.lower.permitStop = s.stop := rfl

end Signals

/-! ### Moves of a loop -/

/-- What a move of a loop can do, and when. -/
inductive Loops.Lead (s : Signals) : Loop.Phase → Signals → Loop.Phase → Prop
  | enters (running : s.running = true) : Lead s .top s .batch
  | leaves (cleared : s.running = false) : Lead s .top s .leaving
  | ends (skipWait : Bool) : Lead s .batch s (.settled skipWait)
  | goesOn (running : s.running = true) : Lead s (.settled true) s .top
  | parks (running : s.running = true) : Lead s (.settled false) s .parked
  | quits (skipWait : Bool) (cleared : s.running = false) : Lead s (.settled skipWait) s .leaving
  | pollIntervalEnds : Lead s .parked s .top
  | woken (permit : s.wakePermit = true) : Lead s .parked { s with wakePermit := false } .top
  | stopped (permit : s.stopPermit = true) :
      Lead s .parked { s with stopPermit := false } .leaving
  | returns : Lead s .leaving { s with running := false } .returned
  | stays {phase : Loop.Phase} : Lead s phase s phase

theorem Loops.lead_of_lead? {move : Loops.Move} {s s' : Signals} {phase phase' : Loop.Phase}
    (h : move.lead? s phase = some (s', phase')) : Loops.Lead s phase s' phase' := by
  cases phase with
  | top =>
    cases move with
    | advance =>
      obtain ⟨rfl, rfl⟩ := Prod.mk.inj (Option.some.inj h)
      cases running : s.running with
      | true => exact .enters running
      | false => exact .leaves running
    | batchEnds | pollIntervalEnds | wakes | stops => cases h
  | batch =>
    cases move with
    | advance =>
      obtain ⟨rfl, rfl⟩ := Prod.mk.inj (Option.some.inj h)
      exact .stays
    | batchEnds skipWait =>
      obtain ⟨rfl, rfl⟩ := Prod.mk.inj (Option.some.inj h)
      exact .ends skipWait
    | pollIntervalEnds | wakes | stops => cases h
  | settled skipWait =>
    cases move with
    | advance =>
      obtain ⟨rfl, rfl⟩ := Prod.mk.inj (Option.some.inj h)
      cases running : s.running with
      | false => exact .quits skipWait running
      | true =>
        cases skipWait with
        | true => exact .goesOn running
        | false => exact .parks running
    | batchEnds | pollIntervalEnds | wakes | stops => cases h
  | parked =>
    cases move with
    | advance =>
      obtain ⟨rfl, rfl⟩ := Prod.mk.inj (Option.some.inj h)
      exact .stays
    | pollIntervalEnds =>
      obtain ⟨rfl, rfl⟩ := Prod.mk.inj (Option.some.inj h)
      exact .pollIntervalEnds
    | wakes =>
      obtain ⟨⟨reason, signals⟩, noticed, result⟩ := Option.map_eq_some_iff.1 h
      obtain ⟨rfl, rfl⟩ := Prod.mk.inj result
      -- a wake-up is noticed before a stop
      by_cases woken : s.wakePermit
      · rw [Loop.wake?, if_pos woken] at noticed
        obtain ⟨rfl, rfl⟩ := Prod.mk.inj (Option.some.inj noticed)
        exact .woken woken
      · by_cases stopped : s.stopPermit
        · rw [Loop.wake?, if_neg woken, if_pos stopped] at noticed
          obtain ⟨rfl, rfl⟩ := Prod.mk.inj (Option.some.inj noticed)
          exact .stopped stopped
        · simp [Loop.wake?, woken, stopped] at noticed
    | stops =>
      by_cases stopped : s.stopPermit
      · simp only [Loops.Move.lead?, stopped, if_true] at h
        obtain ⟨rfl, rfl⟩ := Prod.mk.inj (Option.some.inj h)
        exact .stopped stopped
      · simp [Loops.Move.lead?, stopped] at h
    | batchEnds => cases h
  | leaving =>
    cases move with
    | advance =>
      obtain ⟨rfl, rfl⟩ := Prod.mk.inj (Option.some.inj h)
      exact .returns
    | batchEnds | pollIntervalEnds | wakes | stops => cases h
  | returned =>
    cases move with
    | advance =>
      obtain ⟨rfl, rfl⟩ := Prod.mk.inj (Option.some.inj h)
      exact .stays
    | batchEnds | pollIntervalEnds | wakes | stops => cases h

/-! ### A worker and its runs -/

/-- A worker whose runs follow one another. -/
structure Runs where
  signals : Signals := {}
  /-- Where the loop of the last run stands. A worker that was never run counts as returned. -/
  phase : Loop.Phase := .returned
  /-- How many stops have cleared the flag and not left their permit yet. -/
  halfStops : Nat := 0
  deriving DecidableEq

namespace Runs

/-- A call of the worker, one half of such a call, an enqueue, or a move of the loop. -/
inductive Event where
  | run
  | stopBegins
  | stopEnds
  | enqueued
  | moves (move : Loops.Move)
  deriving DecidableEq

/-- The worker after an event, if it can happen: a run is made only after the previous one has
returned. -/
def next? (r : Runs) : Event → Option Runs
  | .run =>
    if r.phase = .returned then
      let (accepted, signals) := r.signals.begin_
      some { r with signals := signals, phase := if accepted then .top else .returned }
    else none
  | .stopBegins => some { r with signals := r.signals.lower, halfStops := r.halfStops + 1 }
  | .stopEnds =>
    if 0 < r.halfStops then
      some { r with signals := r.signals.permitStop, halfStops := r.halfStops - 1 }
    else none
  | .enqueued => some { r with signals := r.signals.wake }
  | .moves move =>
    (move.lead? r.signals r.phase).map fun (signals, phase) =>
      { r with signals := signals, phase := phase }

def after? (r : Runs) (events : List Event) : Option Runs := events.foldlM next? r

variable {r r' : Runs} {e : Event} {events before since : List Event}

theorem after?_cons (r : Runs) (e : Event) (events : List Event) :
    r.after? (e :: events) = (r.next? e).bind fun r => r.after? events := rfl

theorem after?_append (r : Runs) (first second : List Event) :
    r.after? (first ++ second) = (r.after? first).bind fun r => r.after? second := by
  rw [after?, List.foldlM_append]
  rfl

/-! ### The running flag -/

/-- The flag of a worker is not set after its loop has returned. -/
def Settled (r : Runs) : Prop := r.phase = .returned → r.signals.running = false

/-- A loop gives back the flag when it returns, and only a run takes it. -/
theorem Settled.next? (settled : r.Settled) (h : r.next? e = some r') : r'.Settled := by
  intro returned
  cases e with
  | run =>
    by_cases idle : r.phase = .returned
    · simp only [Runs.next?, idle, if_true, Signals.begin_, settled idle] at h
      obtain rfl := Option.some.inj h
      cases returned
    · simp [Runs.next?, idle] at h
  | stopBegins =>
    obtain rfl := Option.some.inj h
    rfl
  | stopEnds =>
    by_cases half : 0 < r.halfStops
    · simp only [Runs.next?, half, if_true] at h
      obtain rfl := Option.some.inj h
      exact settled returned
    · simp [Runs.next?, half] at h
  | enqueued =>
    obtain rfl := Option.some.inj h
    exact settled returned
  | moves move =>
    obtain ⟨⟨signals, phase⟩, led, rfl⟩ := Option.map_eq_some_iff.1 h
    rcases move.lead?_cases led with ⟨-, -, cleared⟩ | ⟨same, kept⟩
    · exact cleared
    · exact kept.trans (settled (same.1 returned))

theorem Settled.after? (settled : r.Settled) (h : r.after? events = some r') : r'.Settled := by
  induction events generalizing r with
  | nil =>
    obtain rfl := Option.some.inj h
    exact settled
  | cons e events ih =>
    rw [after?_cons] at h
    obtain ⟨r₁, first, rest⟩ := Option.bind_eq_some_iff.1 h
    exact ih (settled.next? first) rest

/-- A run that is made after the previous one has returned is accepted. -/
theorem next?_run (settled : r.Settled) (idle : r.phase = .returned) : r.next? .run =
    some { r with signals := { r.signals with running := true }, phase := .top } := by
  simp [Runs.next?, idle, Signals.begin_, settled idle]

/-! ### Undisturbed runs -/

/-- A run is going on and nothing asks it to end: the flag is set, and no permit is left or will be. -/
structure Undisturbed (r : Runs) : Prop where
  running : r.signals.running = true
  noPermit : r.signals.stopPermit = false
  noHalfStop : r.halfStops = 0
  inside : r.phase ≠ .leaving ∧ r.phase ≠ .returned

/-- No move ends a loop that finds the flag set and no permit. -/
theorem lead_undisturbed {s s' : Signals} {phase phase' : Loop.Phase}
    (lead : Loops.Lead s phase s' phase') (running : s.running = true)
    (noPermit : s.stopPermit = false) (inside : phase ≠ .leaving ∧ phase ≠ .returned) :
    s'.running = true ∧ s'.stopPermit = false ∧ phase' ≠ .leaving ∧ phase' ≠ .returned := by
  cases lead with
  | leaves cleared => simp [running] at cleared
  | quits skipWait cleared => simp [running] at cleared
  | stopped permit => simp [noPermit] at permit
  | returns => exact absurd rfl inside.1
  | stays => exact ⟨running, noPermit, inside⟩
  | enters | ends | goesOn | parks | pollIntervalEnds | woken => simp [running, noPermit]

/-- Only a new stop disturbs a run. -/
theorem Undisturbed.next? (undisturbed : r.Undisturbed) (other : e ≠ .stopBegins)
    (h : r.next? e = some r') : r'.Undisturbed := by
  obtain ⟨running, noPermit, noHalfStop, inside⟩ := undisturbed
  cases e with
  | run => simp [Runs.next?, inside.2] at h
  | stopBegins => exact absurd rfl other
  | stopEnds => simp [Runs.next?, noHalfStop] at h
  | enqueued =>
    obtain rfl := Option.some.inj h
    exact ⟨running, noPermit, noHalfStop, inside⟩
  | moves move =>
    obtain ⟨⟨signals, phase⟩, led, rfl⟩ := Option.map_eq_some_iff.1 h
    obtain ⟨running', noPermit', inside'⟩ :=
      lead_undisturbed (Loops.lead_of_lead? led) running noPermit inside
    exact ⟨running', noPermit', noHalfStop, inside'⟩

theorem Undisturbed.after? (undisturbed : r.Undisturbed) (unasked : .stopBegins ∉ since)
    (h : r.after? since = some r') : r'.Undisturbed := by
  induction since generalizing r with
  | nil =>
    obtain rfl := Option.some.inj h
    exact undisturbed
  | cons e since ih =>
    rw [List.mem_cons, not_or] at unasked
    rw [after?_cons] at h
    obtain ⟨r₁, first, rest⟩ := Option.bind_eq_some_iff.1 h
    exact ih (undisturbed.next? (Ne.symm unasked.1) first) unasked.2 rest

/-! ### Whose stop ends a run -/

/-- A loop that runs one batch and waits leaves on a permit. -/
def leaveOnPermit : List Event :=
  [.moves .advance, .moves (.batchEnds false), .moves .advance, .moves .stops, .moves .advance]

theorem after?_leaveOnPermit (running : r.signals.running = true)
    (permit : r.signals.stopPermit = true) (top : r.phase = .top) :
    ∃ r', r.after? leaveOnPermit = some r' ∧ r'.phase = .returned := by
  obtain ⟨⟨_, _, _⟩, _, _⟩ := r
  cases running
  cases permit
  cases top
  exact ⟨_, rfl, rfl⟩

/-- Whatever is left of a stop can end a run that nobody stops. -/
theorem exists_unasked_end (settled : r.Settled) (idle : r.phase = .returned)
    (left : r.signals.stopPermit = true ∨ 0 < r.halfStops) :
    ∃ since r', r.after? (.run :: since) = some r' ∧ r'.phase = .returned ∧
      .stopBegins ∉ since := by
  have run : ∀ since, r.after? (.run :: since) =
      Runs.after? { r with signals := { r.signals with running := true }, phase := .top } since := by
    intro since
    rw [after?_cons, next?_run settled idle]
    rfl
  rcases left with permit | half
  · obtain ⟨r', ends, returned⟩ := after?_leaveOnPermit
      (r := { r with signals := { r.signals with running := true }, phase := .top }) rfl permit rfl
    exact ⟨leaveOnPermit, r', (run _).trans ends, returned, by decide⟩
  · -- the stop that was half done when the run began leaves its permit first
    obtain ⟨r', ends, returned⟩ := after?_leaveOnPermit
      (r := { r with
        signals := { r.signals with running := true, stopPermit := true }
        phase := .top
        halfStops := r.halfStops - 1 }) rfl rfl rfl
    refine ⟨.stopEnds :: leaveOnPermit, r', ?_, returned, by decide⟩
    rw [run, after?_cons]
    simp only [Runs.next?, half, if_true]
    exact ends

/-- A worker is run after its previous run has returned. The run ends only after a stop that was asked
for since it began, whatever else happens, if and only if it began with nothing left of an earlier stop:
no permit, and no stop that was half done. -/
theorem ends_on_own_stop_iff (h : after? {} before = some r) (idle : r.phase = .returned) :
    (∀ since r', after? {} (before ++ .run :: since) = some r' → r'.phase = .returned →
      .stopBegins ∈ since) ↔ r.signals.stopPermit = false ∧ r.halfStops = 0 := by
  have settled : r.Settled := Settled.after? (fun _ => rfl) h
  have later : ∀ since, after? {} (before ++ .run :: since) = r.after? (.run :: since) := by
    intro since
    rw [after?_append, h]
    rfl
  constructor
  · intro asked
    by_contra left
    have left : r.signals.stopPermit = true ∨ 0 < r.halfStops := by
      rw [not_and_or, Bool.not_eq_false] at left
      exact left.imp_right Nat.pos_of_ne_zero
    obtain ⟨since, r', run, returned, unasked⟩ := exists_unasked_end settled idle left
    exact unasked (asked since r' ((later since).trans run) returned)
  · rintro ⟨noPermit, noHalfStop⟩ since r' run returned
    by_contra unasked
    rw [later, after?_cons, next?_run settled idle] at run
    have undisturbed : Undisturbed { r with
        signals := { r.signals with running := true }
        phase := .top } := ⟨rfl, noPermit, noHalfStop, by simp⟩
    exact (undisturbed.after? unasked run).inside.2 returned

/-- A loop waits, is stopped, and returns. -/
def stoppedWaiting : List Event :=
  [.run, .moves .advance, .moves (.batchEnds false), .moves .advance, .stopBegins, .stopEnds,
    .moves .stops, .moves .advance]

theorem ends_on_own_stop_of_stoppedWaiting : ∃ r, after? {} stoppedWaiting = some r ∧
    ∀ since r', after? {} (stoppedWaiting ++ .run :: since) = some r' → r'.phase = .returned →
      .stopBegins ∈ since :=
  ⟨_, rfl, (ends_on_own_stop_iff rfl rfl).2 (by decide)⟩

/-- A loop is stopped in the middle of a batch, notices the flag after it, and returns. -/
def stoppedInBatch : List Event :=
  [.run, .moves .advance, .stopBegins, .stopEnds, .moves (.batchEnds false), .moves .advance,
    .moves .advance]

/-- Run again, the worker ends its loop at the first wait, and nobody has stopped it. -/
theorem ends_on_earlier_stop : ¬ ∀ before r, after? {} before = some r → r.phase = .returned →
    ∀ since r', after? {} (before ++ .run :: since) = some r' → r'.phase = .returned →
      .stopBegins ∈ since := by
  intro own
  have asked := own stoppedInBatch _ rfl rfl leaveOnPermit _ rfl rfl
  exact absurd asked (by decide)

end Runs

end WorkQueue.Worker
