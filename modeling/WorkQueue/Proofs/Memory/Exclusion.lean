import WorkQueue.Proofs.Memory.Journey

/-!
# Exclusive claims

A task that was claimed belongs to its worker until an attempt of it has failed: no claim returns it
before. The statements are about histories of any length, with calls of any number of callers.

## Main definitions

* `Memory.Admitted`: the words that the transitions of a task may spell
* `Memory.ClaimsExclusive`: claims of a task exclude each other in a history

## Main statements

* `Memory.claims_exclusive`: they do in the history of every run
-/

namespace WorkQueue.Memory

variable {policy : Backoff.Policy} {s s' : State} {history : List Exchange} {x : Exchange}
  {id : Uuid} {t first second : Task} {moves before between after : List (Action × Task)}
  {m : Action × Task}

/-! ### Between two claims -/

/-- What follows the last occurrence of an element is determined. -/
theorem eq_of_append_cons_eq {α : Type} {a : α} {xs ys xs' ys' : List α}
    (h : xs ++ a :: ys = xs' ++ a :: ys') (hys : a ∉ ys) (hys' : a ∉ ys') : ys = ys' := by
  rcases List.append_eq_append_iff.1 h with ⟨mid, -, hmid⟩ | ⟨mid, -, hmid⟩
  · cases mid with
    | nil => exact (List.cons.inj hmid).2
    | cons b mid => exact absurd (by simp [(List.cons.inj hmid).2]) hys
  · cases mid with
    | nil => exact (List.cons.inj hmid).2.symm
    | cons b mid => exact absurd (by simp [(List.cons.inj hmid).2]) hys'

/-- The word of a journey with two claims ends, before the second one, with a failed attempt. -/
theorem Journey.word_between (journey : Journey policy moves t)
    (h : moves = before ++ (.claim, first) :: between ++ (.claim, second) :: after) :
    ∃ n, before.map Prod.fst ++ Action.claim :: between.map Prod.fst =
      rounds n ++ [.claim, .start, .fail] := by
  obtain ⟨s, t₀, earlier, move⟩ := journey.split h
  rcases earlier.word_before_claim move with none | some
  · simp at none
  · simpa using some

theorem Journey.between_claims (journey : Journey policy moves t)
    (h : moves = before ++ (.claim, first) :: between ++ (.claim, second) :: after)
    (no_claim : .claim ∉ between.map Prod.fst) : between.map Prod.fst = [.start, .fail] := by
  obtain ⟨n, word⟩ := journey.word_between h
  exact eq_of_append_cons_eq word no_claim (by decide)

/-- Between two claims, successive or not, lies a failure. -/
theorem Journey.fail_between (journey : Journey policy moves t)
    (h : moves = before ++ (.claim, first) :: between ++ (.claim, second) :: after) :
    .fail ∈ between.map Prod.fst := by
  obtain ⟨n, word⟩ := journey.word_between h
  have last := congrArg List.getLast? word
  rcases List.eq_nil_or_concat (between.map Prod.fst) with none | ⟨rest, a, some⟩
  · simp [none] at last
  · rw [some, List.concat_eq_append, ← List.cons_append, ← List.append_assoc,
      List.getLast?_concat] at last
    obtain rfl : a = .fail := by simpa using last
    simp [some]

/-- Nothing follows a transition to a terminal row. -/
theorem Journey.after_terminal (journey : Journey policy moves t) (h : moves = before ++ m :: after)
    (terminal : m.2.isTerminal) : after = [] := by
  cases after with
  | nil => rfl
  | cons next rest =>
    obtain ⟨s, t₀, earlier, move⟩ := journey.split (h.trans (List.append_cons before m _))
    rw [earlier.row_of_last] at terminal
    exact absurd terminal move.not_isTerminal

/-! ### Batches -/

theorem Run.step_of_mem {start : State} (run : Run policy start history s) (h : x ∈ history) :
    ∃ earlier s₀ s₁, Run policy start earlier s₀ ∧ Step policy s₀ x s₁ := by
  obtain ⟨earlier, later, split⟩ := List.append_of_mem h
  obtain ⟨s₀, s₁, before, step, -⟩ := run.split split
  exact ⟨earlier, s₀, s₁, before, step⟩

/-- No task occurs twice in one batch. -/
theorem Step.nodup_batch (step : Step policy s x s') (hs : s.Keyed) :
    (x.batch.map (·.id)).Nodup := by
  obtain @⟨order, call, perm, _⟩ := step
  cases call with
  | claim worker limit now =>
    show ((State.claim _ worker limit now).1.map (·.id)).Nodup
    rw [State.ids_claim]
    exact State.nodup_candidates (hs.visiting perm)
  | _ => exact List.nodup_nil

theorem Run.nodup_batch (run : Run policy {} history s) (h : x ∈ history) :
    (x.batch.map (·.id)).Nodup := by
  obtain ⟨_, _, _, earlier, step⟩ := run.step_of_mem h
  exact step.nodup_batch (earlier.keyed keyed_empty)

/-- A claim reports exactly one transition of each task that it returns. -/
theorem moves_eq_of_mem_batch (nodup : (x.batch.map (·.id)).Nodup) (h : t ∈ x.batch) :
    x.moves t.id = [(.claim, t)] := by
  have claim : x.moves t.id = (x.batch.filter fun a => a.id = t.id).map fun a => (.claim, a) := by
    rcases x with ⟨call, reply⟩
    cases call with
    | claim => rfl
    | _ => simp [Exchange.batch] at h
  rw [claim, State.filter_id_eq nodup h]
  rfl

/-- The tasks of a batch were claimed. -/
theorem Step.claim_of_mem_batch (step : Step policy s x s') (hs : s.Keyed) (h : t ∈ x.batch) :
    ∃ old, s.find? t.id = some old ∧ Moves policy s old .claim t := by
  have one := moves_eq_of_mem_batch (step.nodup_batch hs) h
  obtain ⟨old, found, -, move⟩ := step.of_mem_moves hs (one ▸ List.mem_singleton_self _)
  exact ⟨old, found, move⟩

theorem Call.subject?_ne_claim {call : Call} : call.subject? ≠ some (id, .claim) := by
  cases call <;> simp [Call.subject?]

/-- A claim of a task is one of the tasks in a batch. -/
theorem mem_batch_of_claim (h : (.claim, t) ∈ x.moves id) : t ∈ x.batch ∧ t.id = id := by
  unfold Exchange.moves at h
  split at h
  · rename_i subject action row subject_eq reply_eq
    split at h
    · obtain ⟨rfl, rfl⟩ := Prod.mk.inj (List.mem_singleton.1 h)
      exact absurd subject_eq Call.subject?_ne_claim
    · cases h
  · obtain ⟨row, inside, same⟩ := List.mem_map.1 h
    obtain rfl : row = t := congrArg Prod.snd same
    simpa using inside

/-- A task was claimed if and only if it was in a batch. -/
theorem Run.claim_mem_movesOf_iff (run : Run policy {} history s) :
    .claim ∈ (movesOf history id).map Prod.fst ↔ ∃ x ∈ history, id ∈ x.batch.map (·.id) := by
  constructor
  · intro h
    obtain ⟨⟨_, t⟩, hm, rfl⟩ := List.mem_map.1 h
    obtain ⟨x, hx, hm⟩ := List.mem_flatMap.1 hm
    obtain ⟨inside, rfl⟩ := mem_batch_of_claim hm
    exact ⟨x, hx, List.mem_map_of_mem inside⟩
  · rintro ⟨x, hx, returned⟩
    obtain ⟨t, inside, rfl⟩ := List.mem_map.1 returned
    have one := moves_eq_of_mem_batch (run.nodup_batch hx) inside
    have move : (Action.claim, t) ∈ movesOf history t.id :=
      List.mem_flatMap.2 ⟨x, hx, one ▸ List.mem_singleton_self _⟩
    exact List.mem_map_of_mem move

/-- A transition other than a claim is a call of its own. -/
theorem subject_of_mem_moves {action : Action} (h : (action, t) ∈ x.moves id)
    (other : action ≠ .claim) : x.call.subject? = some (id, action) ∧ x.reply = .task t := by
  unfold Exchange.moves at h
  split at h
  · rename_i subject action' row subject_eq reply_eq
    split at h
    · rename_i same
      obtain ⟨rfl, rfl⟩ := Prod.mk.inj (List.mem_singleton.1 h)
      exact ⟨same ▸ subject_eq, reply_eq⟩
    · cases h
  · obtain ⟨row, -, claimed⟩ := List.mem_map.1 h
    exact absurd (congrArg Prod.fst claimed).symm other

/-- A failure of a task in a history is a call that failed it. -/
theorem mem_of_fail (h : .fail ∈ (movesOf history id).map Prod.fst) :
    ∃ message now row, ⟨.fail id message now, .task row⟩ ∈ history := by
  obtain ⟨⟨_, row⟩, hm, rfl⟩ := List.mem_map.1 h
  obtain ⟨⟨call, reply⟩, hx, hm⟩ := List.mem_flatMap.1 hm
  obtain ⟨subject_eq, rfl⟩ := subject_of_mem_moves hm (by decide)
  cases call with
  | fail id' message now =>
    obtain rfl : id' = id := by simpa [Call.subject?] using subject_eq
    exact ⟨message, now, row, hx⟩
  | _ => simp [Call.subject?] at subject_eq

/-! ### Histories -/

/-- The transitions are failed attempts and one completed attempt, or the start of such a word;
unless they end in a completion or in a failure for good, one cancellation may follow. -/
def Admitted (moves : List (Action × Task)) : Prop :=
  ∃ n, moves.map Prod.fst <+: rounds n ++ [.claim, .start, .complete] ∨
    ∃ before row, moves = before ++ [(.cancel, row)] ∧
      before.map Prod.fst <+: rounds n ++ [.claim, .start, .complete] ∧
      ∀ m ∈ before.getLast?, m.1 ≠ .complete ∧ ¬ (m.1 = .fail ∧ m.2.retriesExhausted)

/-- Claims of a task exclude each other in a history. -/
structure ClaimsExclusive (history : List Exchange) (id : Uuid) : Prop where
  /-- Between two successive claims lie one start, then one failure, and nothing else. -/
  between_claims : ∀ before first between second after,
    movesOf history id = before ++ (.claim, first) :: between ++ (.claim, second) :: after →
      .claim ∉ between.map Prod.fst → between.map Prod.fst = [.start, .fail]
  /-- No task occurs twice in one batch. -/
  nodup_batch : ∀ x ∈ history, (x.batch.map (·.id)).Nodup
  /-- Between two batches with the task its failure was recorded. -/
  fail_between : ∀ earlier x middle y later, history = earlier ++ x :: middle ++ y :: later →
    id ∈ x.batch.map (·.id) → id ∈ y.batch.map (·.id) →
      ∃ message now row, ⟨.fail id message now, .task row⟩ ∈ middle
  /-- Nothing follows a completion, a cancellation, or a failure for good. -/
  after_terminal : ∀ before m after, movesOf history id = before ++ m :: after →
    m.2.isTerminal → after = []
  /-- All its transitions are those of the lifecycle. -/
  admitted : Admitted (movesOf history id)

theorem Run.admitted (run : Run policy {} history s) (id : Uuid) :
    Admitted (movesOf history id) := by
  cases found : s.find? id with
  | none =>
    rw [run.movesOf_eq_nil found]
    exact ⟨0, .inl List.nil_prefix⟩
  | some t =>
    have journey := run.journey found
    by_cases cancelled : t.status = .cancelled
    · -- the row that was cancelled was open, which neither a completion nor a failure for good is
      obtain ⟨before, t₀, word, earlier, open_⟩ := journey.of_cancelled cancelled
      have open_status : t₀.status ≠ .cancelled := by
        intro h
        simp [Task.isTerminal, Status.isAlwaysTerminal, h] at open_
      obtain ⟨n, isPrefix⟩ := earlier.course.isPrefix open_status
      refine ⟨n, .inr ⟨before, t, word, isPrefix, fun m hm => ?_⟩⟩
      obtain ⟨rest, rfl⟩ := List.getLast?_eq_some_iff.1 hm
      have row := earlier.row_of_last
      subst row
      refine ⟨fun complete => ?_, fun failed => ?_⟩
      · obtain ⟨_, _, _, move⟩ := earlier.split rfl
        have status := move.status_eq
        simp [Task.isTerminal, Status.isAlwaysTerminal, status, complete, target] at open_
      · simp [Task.isTerminal, failed.2] at open_
    · obtain ⟨n, isPrefix⟩ := journey.course.isPrefix cancelled
      exact ⟨n, .inl isPrefix⟩

/-- In the history of every run, claims of a task exclude each other. -/
theorem claims_exclusive (run : Run policy {} history s) (id : Uuid) :
    ClaimsExclusive history id where
  between_claims before first between second after split no_claim := by
    obtain ⟨t, journey⟩ := run.exists_journey (split ▸ List.mem_append_right _ List.mem_cons_self)
    exact journey.between_claims split no_claim
  nodup_batch x hx := run.nodup_batch hx
  fail_between earlier x middle y later split hx hy := by
    obtain ⟨first, hfirst, rfl⟩ := List.mem_map.1 hx
    obtain ⟨second, hsecond, same⟩ := List.mem_map.1 hy
    have x_moves := moves_eq_of_mem_batch (run.nodup_batch (by simp [split])) hfirst
    have y_moves := moves_eq_of_mem_batch (run.nodup_batch (by simp [split])) hsecond
    rw [same] at y_moves
    have word : movesOf history first.id =
        movesOf earlier first.id ++ (.claim, first) :: movesOf middle first.id ++
          (.claim, second) :: movesOf later first.id := by
      simp [split, x_moves, y_moves]
    obtain ⟨t, journey⟩ := run.exists_journey (word ▸ List.mem_append_right _ List.mem_cons_self)
    exact mem_of_fail (journey.fail_between word)
  after_terminal before m after split terminal := by
    obtain ⟨t, journey⟩ := run.exists_journey (split ▸ List.mem_append_right _ List.mem_cons_self)
    exact journey.after_terminal split terminal
  admitted := run.admitted id

/-- A task of two attempts that fails once, is claimed again, and is cancelled by then. -/
def retriedCalls : List Call :=
  [.upsertType ⟨"mail", 2, 0, none⟩ .epoch,
    .enqueue { taskType := "mail", payload := .null } ⟨1⟩ .epoch,
    .claim "a" 5 .epoch, .start ⟨1⟩ .epoch, .fail ⟨1⟩ "refused" .epoch, .claim "b" 5 .epoch,
    .cancel ⟨1⟩ .epoch]

theorem claims_exclusive_of_retried : ∃ history s, Run {} {} history s ∧
    (movesOf history ⟨1⟩).map Prod.fst = [.claim, .start, .fail, .claim, .cancel] ∧
    ClaimsExclusive history ⟨1⟩ := by
  have run : Run {} {} (replay {} {} retriedCalls).1 (replay {} {} retriedCalls).2 :=
    run_replay (by decide +kernel)
  exact ⟨_, _, run, by decide +kernel, claims_exclusive run ⟨1⟩⟩

end WorkQueue.Memory
