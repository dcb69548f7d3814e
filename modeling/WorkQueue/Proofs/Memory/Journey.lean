import WorkQueue.Proofs.Memory.Run

/-!
# The journey of a task

The successful transitions of one task, in order, form a path of rows: each transition is admitted
by the row that the one before it left. The words of actions along such paths are those of an
automaton: rounds of claim, start and failure, then at most one further round that is broken off,
completed, or cancelled.

## Main definitions

* `Memory.Journey`: a path of rows from a creation
* `Memory.rounds`, `Memory.Course`: the words of actions, by the status that they lead to

## Main statements

* `Memory.Run.journey`: the transitions of a stored task are a journey to its row
* `Memory.Journey.split`: each transition was admitted by the row before it
* `Memory.Journey.course`: the word of a journey, by the status that it reached
-/

namespace WorkQueue.Memory

/-- The transitions that led a task from its creation to a row. -/
inductive Journey (policy : Backoff.Policy) : List (Action × Task) → Task → Prop where
  | created (spec : NewTask) (id : Uuid) (now : Timestamp) :
      Journey policy [] (Task.ofNew spec id now)
  | moved {s : State} {moves : List (Action × Task)} {t t' : Task} {action : Action}
      (journey : Journey policy moves t) (move : Moves policy s t action t') :
      Journey policy (moves ++ [(action, t')]) t'

/-- The actions of failed attempts. -/
def rounds (n : Nat) : List Action := (List.replicate n [Action.claim, .start, .fail]).flatten

theorem rounds_succ (n : Nat) : rounds (n + 1) = rounds n ++ [.claim, .start, .fail] := by
  simp [rounds, List.replicate_succ']

/-- The actions that lead a new task to a status. -/
def Course : Status → List Action → Prop
  | .pending, word => word = []
  | .claimed, word => ∃ n, word = rounds n ++ [.claim]
  | .processing, word => ∃ n, word = rounds n ++ [.claim, .start]
  | .completed, word => ∃ n, word = rounds n ++ [.claim, .start, .complete]
  | .failed, word => ∃ n, word = rounds (n + 1)
  | .cancelled, word => ∃ before, word = before ++ [.cancel]

variable {policy : Backoff.Policy} {s : State} {history : List Exchange} {id : Uuid} {t t' : Task}
  {moves before after : List (Action × Task)} {m : Action × Task} {action : Action}

/-- The transitions of a stored task are a journey to its row. -/
theorem Run.journey (run : Run policy {} history s) (found : s.find? id = some t) :
    Journey policy (movesOf history id) t := by
  obtain rfl := State.id_of_find? found
  refine run.rows (P := fun history t => Journey policy (movesOf history t.id) t) ?_ ?_ ?_ found
  · intro history x t ih quiet
    simpa [quiet] using ih
  · intro history s x spec checked id now _ _ none quiet
    have word : movesOf (history ++ [x]) (Task.ofNew checked id now).id = [] := by
      simp [Task.ofNew, none, quiet]
    rw [word]
    exact .created checked id now
  · intro history s x t action t' _ _ ih one move
    rw [move.id_eq, movesOf_append, movesOf_cons, movesOf_nil, List.append_nil, one]
    exact ih.moved move

/-- A task with transitions is stored. -/
theorem Run.exists_journey (run : Run policy {} history s) (h : m ∈ movesOf history id) :
    ∃ t, Journey policy (movesOf history id) t := by
  cases found : s.find? id with
  | none => simp [run.movesOf_eq_nil found] at h
  | some t => exact ⟨t, run.journey found⟩

namespace Journey

/-- The last transition left the present row. -/
theorem row_of_last (journey : Journey policy (before ++ [m]) t) : m.2 = t := by
  generalize h : before ++ [m] = moves at journey
  cases journey with
  | created => simp at h
  | moved journey move =>
    obtain ⟨_, rfl⟩ := List.append_inj' h rfl |>.imp id List.singleton_inj.1
    rfl

/-- Each transition was admitted by the row to which the ones before it led. -/
theorem split (journey : Journey policy moves t) (h : moves = before ++ m :: after) :
    ∃ s t₀, Journey policy before t₀ ∧ Moves policy s t₀ m.1 m.2 := by
  induction journey generalizing after with
  | created => simp at h
  | @moved s moves t t' action journey move ih =>
    rcases List.eq_nil_or_concat after with rfl | ⟨rest, last, rfl⟩
    · obtain ⟨rfl, one⟩ := List.append_inj' h rfl
      obtain rfl := List.singleton_inj.1 one
      exact ⟨s, t, journey, move⟩
    · rw [List.concat_eq_append, ← List.cons_append, ← List.append_assoc] at h
      exact ih (List.append_inj' h rfl).1

/-- The word of a journey follows the course to the status that it reached. -/
theorem course (journey : Journey policy moves t) : Course t.status (moves.map Prod.fst) := by
  induction journey with
  | created => rfl
  | @moved s moves t t' action journey move ih =>
    -- the status that the transition asks for says how the word ended before it
    rw [List.map_append, List.map_cons, List.map_nil]
    cases move with
    | claim worker now claimable =>
      obtain ⟨_, _, ⟨pending, _⟩ | ⟨failed, _⟩, _⟩ := State.isClaimable_iff.1 claimable
      · rw [pending] at ih
        exact ⟨0, by rw [show moves.map Prod.fst = [] from ih]; rfl⟩
      · rw [failed] at ih
        obtain ⟨n, word⟩ := ih
        exact ⟨n + 1, by rw [word]⟩
    | start now claimed =>
      rw [claimed] at ih
      obtain ⟨n, word⟩ := ih
      exact ⟨n, by rw [word, List.append_assoc]; rfl⟩
    | complete now processing =>
      rw [processing] at ih
      obtain ⟨n, word⟩ := ih
      exact ⟨n, by rw [word, List.append_assoc]; rfl⟩
    | fail type message now processing known =>
      rw [processing] at ih
      obtain ⟨n, word⟩ := ih
      exact ⟨n, by rw [word, rounds_succ, List.append_assoc]; rfl⟩
    | cancel now open_ => exact ⟨_, rfl⟩

/-- A pending task has gone through no transition. -/
theorem word_of_pending (journey : Journey policy moves t) (h : t.status = .pending) :
    moves.map Prod.fst = [] := by
  have course := journey.course
  rwa [h] at course

/-- Before a claim lies nothing or a failed attempt. -/
theorem word_before_claim (journey : Journey policy before t) (move : Moves policy s t .claim t') :
    before.map Prod.fst = [] ∨
      ∃ n, before.map Prod.fst = rounds n ++ [.claim, .start, .fail] := by
  cases move with
  | claim worker now claimable =>
    obtain ⟨_, _, ⟨pending, _⟩ | ⟨failed, _⟩, _⟩ := State.isClaimable_iff.1 claimable
    · exact .inl (journey.word_of_pending pending)
    · have course := journey.course
      rw [failed] at course
      obtain ⟨n, word⟩ := course
      exact .inr ⟨n, by rw [word, rounds_succ]⟩

end Journey

/-- The word to a status other than cancelled is a prefix of failed attempts and a completed one. -/
theorem Course.isPrefix {status : Status} {word : List Action} (course : Course status word)
    (h : status ≠ .cancelled) : ∃ n, word <+: rounds n ++ [.claim, .start, .complete] := by
  cases status with
  | pending =>
    obtain rfl := course
    exact ⟨0, List.nil_prefix⟩
  | claimed =>
    obtain ⟨n, rfl⟩ := course
    exact ⟨n, (List.prefix_append_right_inj _).2 ⟨[.start, .complete], rfl⟩⟩
  | processing =>
    obtain ⟨n, rfl⟩ := course
    exact ⟨n, (List.prefix_append_right_inj _).2 ⟨[.complete], rfl⟩⟩
  | completed =>
    obtain ⟨n, rfl⟩ := course
    exact ⟨n, List.prefix_rfl⟩
  | failed =>
    obtain ⟨n, rfl⟩ := course
    exact ⟨n + 1, List.prefix_append _ _⟩
  | cancelled => exact absurd rfl h

/-- A cancelled task was open before its last transition, the cancellation. -/
theorem Journey.of_cancelled (journey : Journey policy moves t) (h : t.status = .cancelled) :
    ∃ before t₀, moves = before ++ [(.cancel, t)] ∧ Journey policy before t₀ ∧
      t₀.isTerminal = false := by
  cases journey with
  | created => simp [Task.ofNew] at h
  | moved journey move =>
    cases move with
    | cancel now open_ => exact ⟨_, _, rfl, journey, open_⟩
    | claim | start | complete | fail => cases h

end WorkQueue.Memory
