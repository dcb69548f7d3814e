import WorkQueue.Proofs.Memory.Keeping
import WorkQueue.Proofs.Worker.Accounting

/-!
# What handlers are given

A task comes to its handler through the storage: it is requested, claimed, started, and given to the
handler as the reply to the start. On this way nothing is lost or rewritten, whoever else uses the
storage meanwhile. In this module others than workers may make any call, claims and outcomes included.

## Main definitions

* `Worker.Crew.OpenStep`: one step of a worker, or any call of anyone
* `Worker.Handed`: what is promised of a row that is given to a handler
* `Worker.Crew.Conserves`: what is promised of the time between two moments

## Main statements

* `Worker.Crew.OpenSteps.run`: what happens to the rows is a run of the storage
* `Worker.Crew.OpenReachable.started`: a row given to a handler is the reply to a start
* `Worker.nothing_lost`: nothing stored is lost or rewritten, and handlers get what was requested
-/

namespace WorkQueue.Worker

open Simulation
open Memory (Call Exchange Run State)

variable {policy : Backoff.Policy} {P : Type} {agent : Agent P} {c c' c₁ c₂ : Crew} {t : Task}
  {e : Execution} {w : World}

/-! ### Steps with any calls -/

namespace Crew

def rows (c : Crew) : State := c.world.memory.state

/-- All calls so far, with their replies. -/
def history (c : Crew) : List Exchange := c.ledger.map (·.exchange)

/-- One step of one of the parties. Others than workers make any calls. -/
inductive OpenStep (policy : Backoff.Policy) (c : Crew) : Crew → Prop
  | crew {c' : Crew} (step : Crew.Step policy c c') : OpenStep policy c c'
  | call {x : Exchange} {w : World} (step : Memory.Step policy c.rows x w.memory.state) :
      OpenStep policy c { c with world := w, ledger := c.noted x }

/-- Any number of steps. -/
abbrev OpenSteps (policy : Backoff.Policy) : Crew → Crew → Prop :=
  Relation.ReflTransGen (OpenStep policy)

/-- Crews that began with an empty storage. -/
def OpenReachable (policy : Backoff.Policy) (c : Crew) : Prop :=
  ∃ w : World, w.memory.state = {} ∧ OpenSteps policy { world := w } c

theorem Steps.opened (steps : Steps policy c c') : OpenSteps policy c c' :=
  Relation.ReflTransGen.mono (fun _ _ step => OpenStep.crew step) _ _ steps

@[simp] theorem history_noted (c : Crew) (x : Exchange) :
    (c.noted x).map (·.exchange) = c.history ++ [x] := by
  simp [noted, history]

end Crew

/-- A step of an execution is a call of the storage with its reply, or leaves the rows alone. -/
theorem step_of_execution (policy_eq : agent.policy = policy) (keeps : agent.KeepsRows)
    (unfinished : 0 < e.remaining) (w : World) :
    (∃ x, Turn.exchange? policy ⟨w, e⟩ = some x ∧ e.call? w.clock = some x.call ∧
        ((agent.step e).run w).1 = e.resume x.reply ∧
        Memory.Step policy w.memory.state x ((agent.step e).run w).2.memory.state) ∨
      Turn.exchange? policy ⟨w, e⟩ = none ∧
        (∃ id t result, e = .started id t ∧ ((agent.step e).run w).1 = .handled id result) ∧
        ((agent.step e).run w).2.memory.state = w.memory.state := by
  subst policy_eq
  cases called : e.call? w.clock with
  | some call =>
    obtain ⟨resumes, rows⟩ := step_of_call agent called
    refine .inl ⟨⟨call, (w.memory.state.serve agent.policy call).1⟩, ?_, rfl, resumes, ?_⟩
    · rw [Turn.exchange?, called]
      rfl
    · rw [rows]
      exact .of_serve rfl (admissible_of_called called _)
  | none =>
    cases e with
    | started id t =>
      obtain ⟨result, resumes, rows⟩ := step_of_started keeps id t w
      exact .inr ⟨rfl, ⟨id, t, result, rfl, resumes⟩, rows⟩
    | claimed => cases called
    | handled id result => cases result <;> cases called
    | finished => exact absurd unfinished (Nat.lt_irrefl 0)

namespace Crew

theorem run_of_eq {s s' : State} (h : s' = s) : Run policy s [] s' := by
  rw [h]
  exact .nil

/-- What happens to the rows in a step is a run of the storage, and the ledger keeps it. -/
theorem OpenStep.run (step : OpenStep policy c c') :
    ∃ later, c'.history = c.history ++ later ∧ Run policy c.rows later c'.rows := by
  cases step with
  | call step => exact ⟨_, history_noted _ _, .snoc .nil step⟩
  | crew step =>
    cases step with
    | call step external => exact ⟨_, history_noted _ _, .snoc .nil step⟩
    | claim agent policy_eq perm claimed =>
      exact ⟨_, history_noted _ _, .snoc .nil (step_of_run_claim perm claimed)⟩
    | advance agent policy_eq keeps here next =>
      obtain @⟨b₁, b₂, id, e, now, -, unfinished⟩ := next
      rcases step_of_execution policy_eq keeps unfinished (c.world.withClock now) with
        ⟨x, exchanged, -, -, step⟩ | ⟨none, -, kept⟩
      · refine ⟨[x], ?_, .snoc .nil step⟩
        rw [exchanged]
        exact history_noted _ _
      · refine ⟨[], ?_, ?_⟩
        · rw [none, List.append_nil]
          rfl
        · exact run_of_eq kept
    | finish here finished => exact ⟨[], (List.append_nil _).symm, .nil⟩
    | idle kept => exact ⟨[], (List.append_nil _).symm, run_of_eq kept⟩

theorem OpenSteps.run (steps : OpenSteps policy c c') :
    ∃ later, c'.history = c.history ++ later ∧ Run policy c.rows later c'.rows := by
  induction steps with
  | refl => exact ⟨[], (List.append_nil _).symm, .nil⟩
  | tail steps step ih =>
    obtain ⟨later, history_eq, run⟩ := ih
    obtain ⟨last, history_eq', run'⟩ := step.run
    exact ⟨later ++ last, by rw [history_eq', history_eq, List.append_assoc], run.append run'⟩

theorem OpenReachable.run (reachable : c.OpenReachable policy) : Run policy {} c.history c.rows := by
  obtain ⟨w, empty, steps⟩ := reachable
  obtain ⟨later, history_eq, run⟩ := steps.run
  have start : ({ world := w } : Crew).rows = {} := empty
  rw [start] at run
  rw [history_eq]
  exact run

end Crew

/-! ### Rows on their way to a handler -/

/-- An execution has just been started if its call was the start, and the reply was the row. -/
theorem of_resume_eq_started {id : Uuid} {now : Timestamp} {call : Call} {reply : Memory.Reply}
    (called : e.call? now = some call) (resumed : e.resume reply = .started id t) :
    call = .start id now ∧ reply = .task t := by
  cases e with
  | claimed id' =>
    obtain rfl := Option.some.inj called
    cases reply with
    | task t' =>
      obtain ⟨rfl, rfl⟩ := Execution.started.inj resumed
      exact ⟨rfl, rfl⟩
    | refused | tasks | edge | type => cases resumed
  | handled id' result =>
    cases result <;> cases reply <;> cases resumed
  | started | finished => cases called

theorem exchange_of_started {id : Uuid} (policy_eq : agent.policy = policy)
    (keeps : agent.KeepsRows) (unfinished : 0 < e.remaining) (keyed : w.memory.state.Keyed)
    (h : ((agent.step e).run w).1 = .started id t) :
    Turn.exchange? policy ⟨w, e⟩ = some ⟨.start t.id w.clock, .task t⟩ := by
  rcases step_of_execution policy_eq keeps unfinished w with
    ⟨⟨call, reply⟩, exchanged, called, resumed, step⟩ | ⟨-, ⟨id', t', result, -, handled⟩, -⟩
  · obtain ⟨rfl, rfl⟩ := of_resume_eq_started called (resumed.symm.trans h)
    obtain ⟨old, found, -, move⟩ := step.of_reply keyed rfl rfl
    have id_eq : t.id = id := move.id_eq.trans (State.id_of_find? found)
    rw [exchanged, id_eq]
  · exact absurd (handled.symm.trans h) (by simp)

/-- What a batch is about to give to handlers are replies to starts. -/
def StartedIn (history : List Exchange) (batch : Batch) : Prop :=
  ∀ y ∈ batch, ∀ id t, y.2 = .started id t → ∃ now, ⟨.start t.id now, .task t⟩ ∈ history

theorem StartedIn.append {history : List Exchange} {batch : Batch} (h : StartedIn history batch)
    (later : List Exchange) : StartedIn (history ++ later) batch := by
  intro y hy id t ht
  obtain ⟨now, inside⟩ := h y hy id t ht
  exact ⟨now, List.mem_append_left _ inside⟩

theorem startedIn_batchOf (history : List Exchange) (ts : List Task) :
    StartedIn history (batchOf ts) := by
  intro y hy id t ht
  obtain ⟨_, _, rfl⟩ := List.mem_map.1 hy
  cases ht

/-- One execution goes on: it is started now, or the batch is about to give less to handlers. -/
theorem StartedIn.advance {history : List Exchange} {b₁ b₂ : Batch} {id : Uuid} {e' : Execution}
    (h : StartedIn history (b₁ ++ (id, e) :: b₂))
    (new : ∀ id t, e' = .started id t → ∃ now, ⟨.start t.id now, .task t⟩ ∈ history) :
    StartedIn history (b₁ ++ (id, e') :: b₂) := by
  intro y hy id' t ht
  rcases List.mem_append.1 hy with left | right
  · exact h y (List.mem_append_left _ left) id' t ht
  · rcases List.mem_cons.1 right with rfl | right
    · exact new id' t ht
    · exact h y (List.mem_append_right _ (List.mem_cons_of_mem _ right)) id' t ht

namespace Crew

def Started (c : Crew) : Prop := ∀ a ∈ c.assignments, StartedIn c.history a.batch

theorem OpenStep.started (step : OpenStep policy c c') (keyed : c.rows.Keyed)
    (started : c.Started) : c'.Started := by
  obtain ⟨later, history_eq, -⟩ := step.run
  have known : ∀ a ∈ c.assignments, StartedIn c'.history a.batch := by
    intro a ha
    rw [history_eq]
    exact (started a ha).append later
  cases step with
  | call step => exact known
  | crew step =>
    cases step with
    | call step external => exact known
    | idle kept => exact known
    | claim agent policy_eq perm claimed =>
      intro a ha
      rcases List.mem_append.1 ha with old | new
      · exact known a old
      · obtain rfl := List.mem_singleton.1 new
        exact startedIn_batchOf _ _
    | finish here finished =>
      rw [here] at known
      intro a ha
      rcases List.mem_append.1 ha with left | right
      · exact known a (List.mem_append_left _ left)
      · exact known a (List.mem_append_right _ (List.mem_cons_of_mem _ right))
    | advance agent policy_eq keeps here next =>
      rw [here] at known
      obtain @⟨b₁, b₂, id, e, now, -, unfinished⟩ := next
      intro a ha
      rcases List.mem_append.1 ha with left | right
      · exact known a (List.mem_append_left _ left)
      · rcases List.mem_cons.1 right with rfl | right
        · have before : StartedIn _ (b₁ ++ (id, e) :: b₂) :=
            known ⟨agent.worker, _⟩ (by simp)
          refine before.advance fun id' t ht => ?_
          have exchanged := exchange_of_started (w := c.world.withClock now) policy_eq keeps
            unfinished keyed ht
          refine ⟨now, ?_⟩
          rw [history, exchanged, Option.elim_some, history_noted]
          exact List.mem_append_right _ (List.mem_singleton_self _)
        · exact known a (List.mem_append_right _ (List.mem_cons_of_mem _ right))

theorem OpenReachable.started (reachable : c.OpenReachable policy) : c.Started := by
  obtain ⟨w, empty, steps⟩ := reachable
  induction steps with
  | refl => exact fun a ha => absurd ha List.not_mem_nil
  | tail steps step ih =>
    have before : OpenReachable policy _ := ⟨w, empty, steps⟩
    exact step.started (before.run.keyed Memory.keyed_empty) ih

end Crew

/-! ### What was requested -/

/-- What is promised of a row that is given to a handler after a history. -/
structure Handed (history : List Exchange) (t : Task) : Prop where
  /-- It was requested once, and is what was requested. -/
  requested : ∃ spec, Memory.requestsOf history t.id = [spec] ∧ t.MadeFrom spec
  /-- It is the reply to a start, and its attempts are the number of that start. -/
  started : ∃ earlier later now, history = earlier ++ ⟨.start t.id now, .task t⟩ :: later ∧
    t.attempts = ((Memory.movesOf earlier t.id).map Prod.fst).count .start + 1

/-- A reply to a start is what was requested, with one more attempt. -/
theorem handed_of_mem {history : List Exchange} {s : State} (run : Run policy {} history s)
    {now : Timestamp} (h : ⟨.start t.id now, .task t⟩ ∈ history) : Handed history t := by
  obtain ⟨earlier, later, history_eq⟩ := List.append_of_mem h
  obtain ⟨s₀, s₁, before, step, after⟩ := run.split history_eq
  obtain ⟨old, found, found', move⟩ := step.of_reply (before.keyed Memory.keyed_empty) rfl rfl
  constructor
  · -- the request known at the start is the only one at the end
    rcases (before.snoc step).requested t.id with ⟨unknown, -⟩ | ⟨t', spec, found'', one, made⟩
    · simp [unknown] at found'
    · obtain rfl := Option.some.inj (found'.symm.trans found'')
      obtain ⟨t'', final, -⟩ :=
        (after.kept ((before.snoc step).keyed Memory.keyed_empty)).tasks t.id t found'
      rcases run.requested t.id with ⟨unknown, -⟩ | ⟨_, spec', -, one', -⟩
      · simp [unknown] at final
      · refine ⟨spec', one', ?_⟩
        rw [history_eq, List.append_cons, Memory.requestsOf_append, one] at one'
        obtain rfl := (List.cons.inj one').1
        exact made
  · refine ⟨earlier, later, now, history_eq, ?_⟩
    rw [← (before.journey found).attempts_eq]
    cases move with
    | start => rfl

/-- What is promised of the time between two moments of a crew. -/
structure Crew.Conserves (c c' : Crew) : Prop where
  /-- Tasks, edges and types remain stored: of a task only its bookkeeping is rewritten, edges stay
  as they are, and a type keeps its creation instant. -/
  kept : c.rows.Kept c'.rows
  /-- A row is rewritten only by calls that name it or return it. -/
  untouched : ∃ later, c'.history = c.history ++ later ∧ ∀ id t, c.rows.find? id = some t →
    (∀ x ∈ later, id ∉ x.touched) → c'.rows.find? id = some t
  /-- The rows that are given to handlers. -/
  handed : ∀ a ∈ c'.assignments, ∀ y ∈ a.batch, ∀ id t, y.2 = .started id t → Handed c'.history t
  /-- The handler is called with that row. -/
  called : ∀ (P : Type) (agent : Agent P) (p : P) (id : Uuid) (t : Task) (w : World),
    agent.processors.resolve t.taskType = .ok p → (agent.step (.started id t)).run w =
      (.handled id (outcomeOf t.taskType ((agent.process p t).run w).1),
        ((agent.process p t).run w).2)

/-- However the steps of any number of workers and the calls of anyone else are interleaved, nothing
that is stored is lost, nothing that was requested is rewritten, and every handler is given what was
requested. -/
theorem nothing_lost (reachable : c.OpenReachable policy) (steps : Crew.OpenSteps policy c c') :
    c.Conserves c' := by
  obtain ⟨later, history_eq, run⟩ := steps.run
  have keyed : c.rows.Keyed := reachable.run.keyed Memory.keyed_empty
  have reachable' : c'.OpenReachable policy := by
    obtain ⟨w, empty, first⟩ := reachable
    exact ⟨w, empty, first.trans steps⟩
  constructor
  · exact run.kept keyed
  · exact ⟨later, history_eq, fun id t found others => run.untouched keyed found others⟩
  · intro a ha y hy id t ht
    obtain ⟨now, inside⟩ := reachable'.started a ha y hy id t ht
    exact handed_of_mem reachable'.run inside
  · intro P agent p id t w resolved
    exact Agent.run_step_started resolved id w

/-- A type, and a task without payload. -/
def postedCalls : List Call :=
  [.upsertType ⟨"mail", 2, 0, none⟩ .epoch,
    .enqueue { taskType := "mail", payload := .null, priority := 3 } ⟨1⟩ .epoch]

def postedWorld : World := emptyWorld.withRows (Memory.replay {} {} postedCalls).2

/-- The posted task is claimed and started, and is about to be given to the handler of its worker. -/
theorem nothing_lost_of_started : ∃ c c' : Crew, c.OpenReachable {} ∧ Crew.OpenSteps {} c c' ∧
    c.rows.tasks.map (·.id) = [⟨1⟩] ∧
    c'.assignments.map (fun a => a.batch.map (·.2.invoked?)) = [[some ⟨1⟩]] ∧
    c.Conserves c' := by
  let clerk := clerk "a" .succeeded
  obtain ⟨ledger, posted⟩ := @Crew.steps_of_replay {} { world := emptyWorld } postedCalls
    (by simp [postedCalls, Call.External]) (by decide +kernel)
  have reachable : Crew.OpenReachable {} ⟨postedWorld, [], [], ledger⟩ :=
    ⟨emptyWorld, rfl, posted.opened⟩
  obtain ⟨ledger', claimed⟩ := Crew.steps_of_claim ⟨postedWorld, [], [], ledger⟩ clerk rfl
  have ids : (postedWorld.memory.state.claim "a" clerk.config.batchSize .epoch).1.map (·.id) =
      [⟨1⟩] := by decide +kernel
  have here : [Assignment.mk "a" (batchOf
      (postedWorld.memory.state.claim "a" clerk.config.batchSize .epoch).1)] =
      [] ++ ⟨"a", [(⟨1⟩, .claimed ⟨1⟩)]⟩ :: [] := by
    rw [batchOf_eq, ids]
    rfl
  have start (w : World) := Interleaving.nil.snoc (@Advance.intro Unit clerk (fun _ => True) w
    [] [] ⟨1⟩ (.claimed ⟨1⟩) .epoch trivial (by decide))
  obtain ⟨ledger'', started⟩ := (Crew.steps_of_interleaving _ rfl (fun _ _ _ => rfl) here
    (start _)).imp fun _ next => claimed.trans next
  have steps : Crew.OpenSteps {} _ _ := Crew.Steps.opened started
  exact ⟨_, _, reachable, steps, by dsimp only [Crew.rows]; decide +kernel,
    by dsimp only; decide +kernel, nothing_lost reachable steps⟩

end WorkQueue.Worker
