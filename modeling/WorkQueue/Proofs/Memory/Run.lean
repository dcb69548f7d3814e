import WorkQueue.Proofs.Memory.Calls

/-!
# Runs of the storage

Any number of callers, each call one step, in any order: a run is the list of all calls with their
replies, and leads from rows to rows. Before each step the rows may be visited in another order.
What a step does to the row of one task is one of three things, and a property of rows that these
three keep holds of every row of every run.

## Main definitions

* `Memory.Exchange`, `Memory.movesOf`: a served call, and the transitions of a task in a history
* `Memory.Step`, `Memory.Run`: one step, and runs
* `Memory.RowChange`: the effect of a step on the row of one task
* `Memory.replay`: the run of a list of calls

## Main statements

* `Memory.Run.append`, `Memory.Run.split`: runs put together and taken apart
* `Memory.Step.row`: a step leaves a row as it is, creates it, or moves it by one transition
* `Memory.Step.row_cases`, `row_of_found`, `of_mem_moves`, `of_reply`: the same, from what is known of
  the row or of the reply
* `Memory.Run.rows`: induction over the rows of a run
-/

namespace WorkQueue.Memory

/-- A served call and its reply. -/
structure Exchange where
  call : Call
  reply : Reply

/-- The tasks that a claim returned. -/
def Exchange.batch (x : Exchange) : List Task :=
  match x.call, x.reply with
  | .claim .., .tasks ts => ts
  | _, _ => []

/-- The successful transitions of a task that an exchange reports, with the rows that they left. A
claim reports one for each of its tasks. -/
def Exchange.moves (x : Exchange) (id : Uuid) : List (Action × Task) :=
  match x.call.subject?, x.reply with
  | some (subject, action), .task t => if subject = id then [(action, t)] else []
  | _, _ => (x.batch.filter fun t => t.id = id).map fun t => (.claim, t)

/-- The successful transitions of a task in a history, in order. -/
def movesOf (history : List Exchange) (id : Uuid) : List (Action × Task) :=
  history.flatMap fun x => x.moves id

@[simp] theorem movesOf_nil (id : Uuid) : movesOf [] id = [] := rfl

@[simp] theorem movesOf_append (h₁ h₂ : List Exchange) (id : Uuid) :
    movesOf (h₁ ++ h₂) id = movesOf h₁ id ++ movesOf h₂ id :=
  List.flatMap_append

@[simp] theorem movesOf_cons (x : Exchange) (history : List Exchange) (id : Uuid) :
    movesOf (x :: history) id = x.moves id ++ movesOf history id :=
  List.flatMap_cons

theorem moves_refused (call : Call) (failure : Failure) (id : Uuid) :
    Exchange.moves ⟨call, .refused failure⟩ id = [] := by
  cases call <;> rfl

theorem moves_subject {call : Call} {subject : Uuid} {action : Action}
    (h : call.subject? = some (subject, action)) (t : Task) (id : Uuid) :
    Exchange.moves ⟨call, .task t⟩ id = if subject = id then [(action, t)] else [] := by
  simp only [Exchange.moves, h]

/-- One call, served on the rows in any order of visiting them. -/
inductive Step (policy : Backoff.Policy) (s : State) : Exchange → State → Prop where
  | serve {order : List Task} {call : Call} (perm : order.Perm s.tasks)
      (admissible : call.Admissible s) :
      Step policy s ⟨call, ((s.visiting order).serve policy call).1⟩
        ((s.visiting order).serve policy call).2

/-- Serving a call without reordering rows is a step. -/
theorem Step.of_serve {policy : Backoff.Policy} {s s' : State} {call : Call} {reply : Reply}
    (served : s.serve policy call = (reply, s')) (admissible : call.Admissible s) :
    Step policy s ⟨call, reply⟩ s' := by
  have step : Step policy s ⟨call, (s.serve policy call).1⟩ (s.serve policy call).2 :=
    .serve (List.Perm.refl _) admissible
  rwa [served] at step

/-- Runs from given rows: all exchanges in order, and the rows after them. -/
inductive Run (policy : Backoff.Policy) (start : State) : List Exchange → State → Prop where
  | nil : Run policy start [] start
  | snoc {history : List Exchange} {s s' : State} {x : Exchange}
      (run : Run policy start history s) (step : Step policy s x s') :
      Run policy start (history ++ [x]) s'

variable {policy : Backoff.Policy} {start s s' : State} {history : List Exchange} {x : Exchange}
  {id : Uuid} {t : Task}

theorem Run.append {h₁ h₂ : List Exchange} {mid : State} (first : Run policy start h₁ mid)
    (second : Run policy mid h₂ s) : Run policy start (h₁ ++ h₂) s := by
  induction second with
  | nil => rwa [List.append_nil]
  | snoc run step ih =>
    rw [← List.append_assoc]
    exact .snoc ih step

/-- A run comes to every point of its history. -/
theorem Run.split {earlier later : List Exchange} (run : Run policy start history s)
    (h : history = earlier ++ x :: later) : ∃ s₀ s₁, Run policy start earlier s₀ ∧
      Step policy s₀ x s₁ ∧ Run policy s₁ later s := by
  induction run generalizing later with
  | nil => simp at h
  | @snoc history s s' y run step ih =>
    rcases List.eq_nil_or_concat later with rfl | ⟨rest, last, rfl⟩
    · obtain ⟨rfl, one⟩ := List.append_inj' h rfl
      obtain rfl := List.singleton_inj.1 one
      exact ⟨s, s', run, step, .nil⟩
    · rw [List.concat_eq_append, ← List.cons_append, ← List.append_assoc] at h
      obtain ⟨rfl, one⟩ := List.append_inj' h rfl
      obtain rfl := List.singleton_inj.1 one
      obtain ⟨s₀, s₁, before, at_, after⟩ := ih rfl
      exact ⟨s₀, s₁, before, at_, List.concat_eq_append ▸ after.snoc step⟩

/-! ### The effect of a step on one row -/

theorem ids_chainRows {specs : List NewTask} {ids : List Uuid} (now : Timestamp)
    (h : ids.length = specs.length) : (chainRows specs ids now).map (·.id) = ids := by
  induction specs generalizing ids with
  | nil =>
    rw [List.eq_nil_of_length_eq_zero h]
    rfl
  | cons spec specs ih =>
    cases ids with
    | nil => simp at h
    | cons id ids => exact congrArg (id :: ·) (ih (Nat.succ.inj h))

theorem mem_chainRows {specs checked : List NewTask} {ids : List Uuid} {now : Timestamp}
    (accepted : List.Forall₂ (fun spec spec' => s.prepare spec = .ok spec') specs checked)
    (h : t ∈ chainRows checked ids now) :
    ∃ spec spec', s.prepare spec = .ok spec' ∧ Task.ofNew spec' t.id now = t := by
  induction accepted generalizing ids with
  | nil => simp [chainRows] at h
  | cons head _ ih =>
    cases ids with
    | nil => simp [chainRows] at h
    | cons id ids =>
      rcases List.mem_cons.1 h with rfl | h
      · exact ⟨_, _, head, rfl⟩
      · exact ih h

/-- What a step does to the row of one task. -/
inductive RowChange (policy : Backoff.Policy) (s : State) (id : Uuid) :
    List (Action × Task) → Option Task → Prop where
  /-- The row stays as it is, or there is still none. -/
  | kept : RowChange policy s id [] (s.find? id)
  /-- The row of a new task. -/
  | created {spec checked : NewTask} (now : Timestamp) (unknown : s.find? id = none)
      (accepted : s.prepare spec = .ok checked) :
      RowChange policy s id [] (some (Task.ofNew checked id now))
  /-- One transition. -/
  | moved {t t' : Task} {action : Action} (found : s.find? id = some t)
      (moves : Moves policy s t action t') : RowChange policy s id [(action, t')] (some t')

/-- New rows under new identifiers: each is created, and all others stay. -/
theorem insert_row {ts : List Task} (hs : (s.insert ts).Keyed)
    (created : ∀ t ∈ ts, s.find? t.id = none ∧ ∃ spec checked now,
      s.prepare spec = .ok checked ∧ Task.ofNew checked t.id now = t) (id : Uuid) :
    RowChange policy s id [] ((s.insert ts).find? id) := by
  by_cases h : id ∈ ts.map (·.id)
  · obtain ⟨t, ht, rfl⟩ := List.mem_map.1 h
    obtain ⟨unknown, spec, checked, now, accepted, built⟩ := created t ht
    have row : RowChange policy s t.id [] _ := .created now unknown accepted
    rwa [built, ← State.find?_insert_of_mem hs ht] at row
  · rw [State.find?_insert_of_notMem h]
    exact .kept

/-- A claim moves each row that it returns, once, and leaves the others. -/
theorem claim_row (hs : s.Keyed) (worker : String) (limit : Nat) (now : Timestamp) (id : Uuid) :
    RowChange policy s id
      (Exchange.moves ⟨.claim worker limit now, .tasks (s.claim worker limit now).1⟩ id)
      ((s.claim worker limit now).2.find? id) := by
  have nodup : ((s.claim worker limit now).1.map (·.id)).Nodup := by
    rw [State.ids_claim]
    exact State.nodup_candidates hs
  rw [State.claim_snd]
  -- from here on only the identifiers and the rows of the batch matter, not how it was chosen
  generalize batch : (s.claim worker limit now).1 = ts at nodup
  by_cases h : id ∈ ts.map (·.id)
  · obtain ⟨t', ht', rfl⟩ := List.mem_map.1 h
    obtain ⟨t, found, claimable, claimed⟩ := State.mem_claim hs (batch ▸ ht')
    rw [State.find?_foldl_put nodup ht' found]
    simp only [Exchange.moves, Call.subject?, Exchange.batch, State.filter_id_eq nodup ht',
      List.map_cons, List.map_nil]
    have moves : Moves policy s t .claim _ := .claim worker now claimable
    exact .moved found (claimed ▸ moves)
  · have never : ts.filter (fun t => t.id = id) = [] := by simpa using h
    rw [State.find?_foldl_put_of_notMem h]
    simp only [Exchange.moves, Call.subject?, Exchange.batch, never, List.map_nil]
    exact .kept

/-- A transition of one task moves its row and leaves the others. -/
theorem put_row {call : Call} {subject : Uuid} {action : Action} {t' : Task}
    (h : call.subject? = some (subject, action)) (found : s.find? subject = some t)
    (moves : Moves policy s t action t') (id : Uuid) :
    RowChange policy s id (Exchange.moves ⟨call, .task t'⟩ id) ((s.put t').find? id) := by
  have same : t'.id = subject := moves.id_eq.trans (State.id_of_find? found)
  subst same
  rw [moves_subject h]
  by_cases hid : t'.id = id
  · subst hid
    rw [if_pos rfl, State.find?_put_self found]
    exact .moved found moves
  · rw [if_neg hid, State.find?_put_of_ne (Ne.symm hid)]
    exact .kept

/-- A call keeps identifiers distinct. -/
theorem Change.keyed {call : Call} {reply : Reply} (c : Change policy s call reply s')
    (hs : s.Keyed) (admissible : call.Admissible s) : s'.Keyed := by
  cases c with
  | refused | linkedBefore => exact hs
  | linked | registered => exact hs
  | enqueued id now accepted =>
    refine hs.insert (List.nodup_singleton _) fun t ht => ?_
    obtain rfl := List.mem_singleton.1 ht
    exact admissible
  | chained ids now accepted =>
    obtain ⟨length_eq, nodup, fresh⟩ := admissible
    rw [accepted.length_eq] at length_eq
    have ids_eq := ids_chainRows now length_eq
    refine hs.insert (ids_eq.symm ▸ nodup) fun t ht => fresh t.id ?_
    rw [← ids_eq]
    exact List.mem_map_of_mem ht
  | claimed worker limit now => exact hs.foldl_put
  | moved => exact hs.put

/-- The effect of a call on the row of one task. -/
theorem Change.row {call : Call} {reply : Reply} (c : Change policy s call reply s')
    (hs : s.Keyed) (admissible : call.Admissible s) (id : Uuid) :
    RowChange policy s id (Exchange.moves ⟨call, reply⟩ id) (s'.find? id) := by
  have hs' := c.keyed hs admissible
  cases c with
  | refused call failure =>
    rw [moves_refused]
    exact .kept
  | linkedBefore | linked | registered => exact .kept
  | enqueued new now accepted =>
    refine insert_row hs' (fun t ht => ?_) id
    obtain rfl := List.mem_singleton.1 ht
    exact ⟨admissible, _, _, now, accepted, rfl⟩
  | chained ids now accepted =>
    obtain ⟨length_eq, _, fresh⟩ := admissible
    rw [accepted.length_eq] at length_eq
    refine insert_row hs' (fun t ht => ?_) id
    obtain ⟨spec, checked, accepted, built⟩ := mem_chainRows accepted ht
    refine ⟨fresh t.id ?_, spec, checked, now, accepted, built⟩
    rw [← ids_chainRows now length_eq]
    exact List.mem_map_of_mem ht
  | claimed worker limit now => exact claim_row hs worker limit now id
  | moved subject found moves => exact put_row subject found moves id

/-! ### Steps and runs -/

theorem admissible_visiting {order : List Task} (hs : s.Keyed) (perm : order.Perm s.tasks)
    (call : Call) : call.Admissible (s.visiting order) ↔ call.Admissible s := by
  cases call <;> simp only [Call.Admissible, State.find?_visiting hs perm]

/-- A step is an admissible call with its effect on the rows in some order. -/
theorem Step.change (step : Step policy s x s') : ∃ order, order.Perm s.tasks ∧
    x.call.Admissible s ∧ Change policy (s.visiting order) x.call x.reply s' := by
  obtain ⟨perm, admissible⟩ := step
  exact ⟨_, perm, admissible, serve_change policy _ _⟩

theorem Step.keyed (step : Step policy s x s') (hs : s.Keyed) : s'.Keyed := by
  obtain ⟨order, perm, admissible, c⟩ := step.change
  exact c.keyed (hs.visiting perm) ((admissible_visiting hs perm _).2 admissible)

/-- A step leaves the row of a task as it is, creates it, or moves it by one transition. -/
theorem Step.row (step : Step policy s x s') (hs : s.Keyed) (id : Uuid) :
    RowChange policy s id (x.moves id) (s'.find? id) := by
  obtain ⟨order, perm, admissible, c⟩ := step.change
  have row := c.row (hs.visiting perm) ((admissible_visiting hs perm _).2 admissible) id
  generalize Exchange.moves _ id = moves at row ⊢
  generalize s'.find? id = after at row ⊢
  cases row with
  | kept =>
    rw [State.find?_visiting hs perm]
    exact .kept
  | created now unknown accepted =>
    rw [State.find?_visiting hs perm] at unknown
    exact .created now unknown accepted
  | moved found moves =>
    rw [State.find?_visiting hs perm] at found
    exact .moved found (moves.of_visiting hs perm)

/-- The row of a task after a step is the one before it, or new, or one transition further. -/
theorem Step.row_cases (step : Step policy s x s') (hs : s.Keyed) (found : s'.find? id = some t) :
    (x.moves id = [] ∧ s.find? id = some t) ∨
      (x.moves id = [] ∧ s.find? id = none ∧
        ∃ spec checked now, s.prepare spec = .ok checked ∧ t = Task.ofNew checked id now) ∨
      ∃ old action, x.moves id = [(action, t)] ∧ s.find? id = some old ∧
        Moves policy s old action t := by
  have row := step.row hs id
  rw [found] at row
  generalize hms : x.moves id = ms at row ⊢
  generalize hafter : some t = after at row
  cases row with
  | kept => exact .inl ⟨rfl, rfl⟩
  | created now unknown accepted =>
    exact .inr (.inl ⟨rfl, unknown, _, _, now, accepted, Option.some.inj hafter⟩)
  | moved before move =>
    obtain rfl := Option.some.inj hafter
    exact .inr (.inr ⟨_, _, rfl, before, move⟩)

/-- A stored row stays, or goes one transition further. -/
theorem Step.row_of_found (step : Step policy s x s') (hs : s.Keyed) (found : s.find? id = some t) :
    s'.find? id = some t ∨
      ∃ action t', s'.find? id = some t' ∧ Moves policy s t action t' := by
  have row := step.row hs id
  generalize x.moves id = ms at row
  generalize s'.find? id = after at row ⊢
  cases row with
  | kept => exact .inl found
  | created now unknown => simp [unknown] at found
  | moved before move =>
    obtain rfl := Option.some.inj (found.symm.trans before)
    exact .inr ⟨_, _, rfl, move⟩

/-- A reported transition was one of the stored row. -/
theorem Step.of_mem_moves {action : Action} (step : Step policy s x s') (hs : s.Keyed)
    (h : (action, t) ∈ x.moves id) : ∃ old, s.find? id = some old ∧ s'.find? id = some t ∧
      Moves policy s old action t := by
  have row := step.row hs id
  generalize x.moves id = ms at row h
  generalize s'.find? id = after at row ⊢
  cases row with
  | kept | created => cases h
  | moved before move =>
    obtain ⟨rfl, rfl⟩ := Prod.mk.inj (List.mem_singleton.1 h)
    exact ⟨_, before, rfl, move⟩

/-- A transition returns the row that it leaves. -/
theorem Step.of_reply {action : Action} (step : Step policy s x s') (hs : s.Keyed)
    (subject : x.call.subject? = some (id, action)) (reply : x.reply = .task t) :
    ∃ old, s.find? id = some old ∧ s'.find? id = some t ∧ Moves policy s old action t := by
  obtain ⟨call, _⟩ := x
  subst reply
  refine step.of_mem_moves hs ?_
  rw [moves_subject subject, if_pos rfl]
  exact List.mem_singleton_self _

/-- Tasks remain stored. -/
theorem Step.isSome_find? (step : Step policy s x s') (hs : s.Keyed)
    (h : (s.find? id).isSome) : (s'.find? id).isSome := by
  obtain ⟨t, found⟩ := Option.isSome_iff_exists.1 h
  rcases step.row_of_found hs found with found' | ⟨action, t', found', -⟩
  · exact found' ▸ rfl
  · exact found' ▸ rfl

theorem Run.keyed (run : Run policy start history s) (hs : start.Keyed) : s.Keyed := by
  induction run with
  | nil => exact hs
  | snoc run step ih => exact step.keyed ih

theorem keyed_empty : ({} : State).Keyed := List.nodup_nil

/-- A task that is not stored has gone through no transition. -/
theorem Run.movesOf_eq_nil (run : Run policy {} history s) (unknown : s.find? id = none) :
    movesOf history id = [] := by
  induction run with
  | nil => rfl
  | @snoc history s s' x run step ih =>
    have hs := run.keyed keyed_empty
    rw [movesOf_append, movesOf_cons, movesOf_nil, List.append_nil]
    have unknown_before : s.find? id = none := by
      rw [Option.eq_none_iff_forall_ne_some]
      intro t found
      have stored := step.isSome_find? hs (Option.isSome_of_eq_some found)
      simp [unknown] at stored
    have quiet : x.moves id = [] := by
      rw [List.eq_nil_iff_forall_not_mem]
      rintro ⟨action, t⟩ hm
      obtain ⟨old, found, -, -⟩ := step.of_mem_moves hs hm
      simp [unknown_before] at found
    rw [ih unknown_before, quiet, List.nil_append]

/-- Induction over the rows of a run: a property of a history and a row holds of every stored row if
steps that leave a row keep it, new rows have it, and transitions keep it. -/
theorem Run.rows {P : List Exchange → Task → Prop} (run : Run policy {} history s)
    (kept : ∀ history x t, P history t → x.moves t.id = [] → P (history ++ [x]) t)
    (created : ∀ history s x spec checked id now, Run policy {} history s →
      s.prepare spec = .ok checked → movesOf history id = [] → x.moves id = [] →
      P (history ++ [x]) (Task.ofNew checked id now))
    (moved : ∀ history s x t action t', Run policy {} history s → s.find? t.id = some t →
      P history t → x.moves t.id = [(action, t')] → Moves policy s t action t' →
      P (history ++ [x]) t') {id : Uuid} {t : Task} (found : s.find? id = some t) :
    P history t := by
  induction run generalizing t with
  | nil => cases found
  | snoc run step ih =>
    rcases step.row_cases (run.keyed keyed_empty) found with
      ⟨quiet, before⟩ | ⟨quiet, unknown, spec, checked, now, accepted, rfl⟩ |
        ⟨old, action, one, before, move⟩
    · obtain rfl := State.id_of_find? before
      exact kept _ _ _ (ih before) quiet
    · exact created _ _ _ _ _ _ now run accepted (run.movesOf_eq_nil unknown) quiet
    · obtain rfl := State.id_of_find? before
      exact moved _ _ _ _ _ _ run before (ih before) one move

/-! ### The run of a list of calls -/

/-- Serves calls one after the other, without reordering rows. -/
def replay (policy : Backoff.Policy) : State → List Call → List Exchange × State
  | s, [] => ([], s)
  | s, call :: calls =>
    let (reply, next) := s.serve policy call
    let (history, last) := replay policy next calls
    (⟨call, reply⟩ :: history, last)

/-- Each call can be made when its turn comes. -/
def AdmissibleFrom (policy : Backoff.Policy) : State → List Call → Prop
  | _, [] => True
  | s, call :: calls => call.Admissible s ∧ AdmissibleFrom policy (s.serve policy call).2 calls

instance (policy : Backoff.Policy) :
    (s : State) → (calls : List Call) → Decidable (AdmissibleFrom policy s calls)
  | _, [] => isTrue trivial
  | s, call :: calls =>
    have := instDecidableAdmissibleFrom policy (s.serve policy call).2 calls
    inferInstanceAs (Decidable (_ ∧ _))

theorem run_replay {calls : List Call} (h : AdmissibleFrom policy s calls) :
    Run policy s (replay policy s calls).1 (replay policy s calls).2 := by
  induction calls generalizing s with
  | nil => exact .nil
  | cons call calls ih =>
    have first : Run policy s [⟨call, (s.serve policy call).1⟩] (s.serve policy call).2 :=
      .snoc .nil (.of_serve rfl h.1)
    exact first.append (ih h.2)

end WorkQueue.Memory
