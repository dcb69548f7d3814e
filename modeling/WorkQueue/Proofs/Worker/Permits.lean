import WorkQueue.Proofs.Memory.Operations
import WorkQueue.Proofs.Worker.Containment
import WorkQueue.Simulation.Run

/-!
# Permits

A worker takes a permit for each execution before it spawns it, and the execution gives the permit back
when it ends, in whatever way. Batches of one worker may overlap; they share its permits. Permits are
neither made nor lost: those that are left and those that executions hold add up to the number that the
worker began with. So no more handlers are in progress at once, and no batch waits for a permit that
nobody will give back.

What is asked of the storage and of the handlers is what `Dialogue.execute` asks, and the answers are
any. An execution may also break off at any point, which drops its permit with the rest of it. The
executions of `Worker.runOnce` do not break off, but permits do not depend on that.

## Main definitions

* `Worker.JobStage`: how far the execution of a claimed task is
* `Worker.Pool`: the permits that are left, and the calls for batches in progress
* `Worker.Pool.Step`, `Worker.Pool.Steps`, `Worker.Pool.Reachable`: steps of overlapping calls, in any
  order
* `Worker.Pool.Bounded`: what is promised of the worker

## Main statements

* `Worker.Pool.Step.conserves`: no step makes or loses a permit
* `Worker.Pool.steps_of_runOnce`: the batch of a worker, with any answers, is a sequence of steps
* `Worker.Pool.parallelism_bounded`: a worker keeps the promise
* `Simulation.Shift.within_begin_`, `Simulation.Shift.within_wake`: so do batches in virtual time
-/

namespace WorkQueue

namespace Worker

variable {P : Type}

/-! ### Executions with permits -/

/-- How far the execution of a claimed task is. -/
inductive JobStage (P : Type) where
  /-- A permit is to be taken for it. -/
  | queued
  /-- Its permit has been taken, and it is to be spawned. -/
  | admitted
  /-- It runs by itself, and this is what is left of it. -/
  | running (rest : Dialogue P Verdict)
  /-- It has ended, and its permit is to be given back. -/
  | ended (verdict : Verdict)
  | released (verdict : Verdict)

namespace JobStage

/-- The execution has been spawned. -/
def Spawned : JobStage P → Prop
  | queued | admitted => False
  | running _ | ended _ | released _ => True

/-- The execution runs, or has ended and not given its permit back. -/
def InProgress : JobStage P → Prop
  | running _ | ended _ => True
  | queued | admitted | released _ => False

def holdsPermit : JobStage P → Bool
  | admitted | running _ | ended _ => true
  | queued | released _ => false

/-- The handler of the task is in progress: it was asked to run, and has not answered. -/
def handles : JobStage P → Bool
  | running (.ask (.process _ _) _) => true
  | _ => false

/-- A handler is in progress only while its execution holds a permit. -/
theorem holdsPermit_of_handles {s : JobStage P} (h : s.handles) : s.holdsPermit := by
  unfold handles at h
  split at h
  · rfl
  · cases h

/-- One step of an execution, with the number of permits left before and after it. -/
inductive Step (id : Uuid) : Nat → JobStage P → List (Asked P) → Nat → JobStage P → Prop where
  | acquire (left : Nat) : Step id (left + 1) queued [] left admitted
  | spawn (left : Nat) : Step id left admitted [] left (running (Dialogue.execute id))
  | answer (left : Nat) {request : Request P} {next : request.Answer → Dialogue P Verdict}
      (answer : request.Answer) :
      Step id left (running (.ask request next)) [⟨request, answer⟩] left (running (next answer))
  | report (left : Nat) {event : Telemetry.Event} {rest : Dialogue P Verdict} :
      Step id left (running (.report event rest)) [] left (running rest)
  | finish (left : Nat) {verdict : Verdict} :
      Step id left (running (.done verdict)) [] left (ended verdict)
  /-- The rest of an execution that breaks off is dropped, and its outcome counts as not recorded. No
  batch of `Worker.runOnce` needs this step. -/
  | breakOff (left : Nat) {rest : Dialogue P Verdict} :
      Step id left (running rest) [] left (ended .skipped)
  | release (left : Nat) {verdict : Verdict} :
      Step id left (ended verdict) [] (left + 1) (released verdict)

/-- A permit is left or it is held. A step takes one out of those that are left, or puts one back. -/
theorem Step.conserves {id : Uuid} {left left' : Nat} {s s' : JobStage P} {asked : List (Asked P)}
    (step : Step id left s asked left' s') :
    left' + (if s'.holdsPermit then 1 else 0) = left + if s.holdsPermit then 1 else 0 := by
  cases step <;> rfl

end JobStage

/-- A claimed task of a batch, and its execution. -/
structure Job (P : Type) where
  id : Uuid
  stage : JobStage P

def Job.queued (t : Task) : Job P := ⟨t.id, .queued⟩

/-- A call for a batch that has not returned. -/
inductive Ongoing (P : Type) where
  /-- Its claim has not been answered. -/
  | claiming
  /-- The claimed tasks, in claim order. -/
  | executing (jobs : List (Job P))

def Ongoing.stages : Ongoing P → List (JobStage P)
  | claiming => []
  | executing jobs => jobs.map (·.stage)

/-- A worker with its calls in progress. -/
structure Pool (P : Type) where
  /-- How many permits are left. -/
  left : Nat
  calls : List (Ongoing P) := []

namespace Pool

/-- The executions of all calls in progress. -/
def stages (w : Pool P) : List (JobStage P) := w.calls.flatMap Ongoing.stages

/-- How many permits are held. -/
def held (w : Pool P) : Nat := w.stages.countP JobStage.holdsPermit

/-- How many handlers are in progress. -/
def handling (w : Pool P) : Nat := w.stages.countP JobStage.handles

/-! ### Overlapping calls -/

/-- What can be observed of a worker. -/
inductive Event (P : Type) where
  /-- A request was answered. -/
  | asked (x : Asked P)
  /-- A call has returned. -/
  | returned (result : Outcome Tally)

/-- A step of some call, or of an execution that it has spawned. A call takes permits for its tasks in
claim order, each one after the execution before it was spawned, and returns once all are given back. -/
inductive Step (worker : String) (config : Settings.Worker) (w : Pool P) :
    List (Event P) → Pool P → Prop where
  | call : Step worker config w [] { w with calls := w.calls ++ [.claiming] }
  | refuse {before after : List (Ongoing P)} (here : w.calls = before ++ .claiming :: after)
      (failure : Failure) :
      Step worker config w
        [.asked (.claim worker config.batchSize (.error failure)), .returned (.error failure)]
        { w with calls := before ++ after }
  | claim {before after : List (Ongoing P)} (here : w.calls = before ++ .claiming :: after)
      (ts : List Task) :
      Step worker config w [.asked (.claim worker config.batchSize (.ok ts))]
        { w with calls := before ++ .executing (ts.map .queued) :: after }
  | work {before after : List (Ongoing P)} {earlier later : List (Job P)} {id : Uuid}
      {stage stage' : JobStage P} {left : Nat} {asked : List (Asked P)}
      (here : w.calls = before ++ .executing (earlier ++ ⟨id, stage⟩ :: later) :: after)
      (inTurn : stage = .queued → ∀ job ∈ earlier, job.stage.Spawned)
      (next : JobStage.Step id w.left stage asked left stage') :
      Step worker config w (asked.map .asked)
        ⟨left, before ++ .executing (earlier ++ ⟨id, stage'⟩ :: later) :: after⟩
  | return_ {before after : List (Ongoing P)} {jobs : List (Job P)} {verdicts : List Verdict}
      (here : w.calls = before ++ .executing jobs :: after)
      (ended : jobs.map (·.stage) = verdicts.map .released) :
      Step worker config w
        [.returned (.ok (verdicts.foldl Tally.add { claimed := jobs.length }))]
        { w with calls := before ++ after }

/-- Any number of steps, with all that was observed. -/
inductive Steps (worker : String) (config : Settings.Worker) (w : Pool P) :
    List (Event P) → Pool P → Prop where
  | nil : Steps worker config w [] w
  | snoc {history events : List (Event P)} {w₁ w₂ : Pool P}
      (first : Steps worker config w history w₁) (next : Step worker config w₁ events w₂) :
      Steps worker config w (history ++ events) w₂

/-- A new worker with all its permits. -/
def fresh (config : Settings.Worker) : Pool P := { left := permits config }

/-- What a new worker comes to. -/
def Reachable (worker : String) (config : Settings.Worker) (w : Pool P) : Prop :=
  ∃ history, Steps worker config (fresh config) history w

variable {worker : String} {config : Settings.Worker} {w w' w₁ : Pool P}
  {events history later : List (Event P)} {before after : List (Ongoing P)} {left : Nat} {id : Uuid}
  {asked : List (Asked P)}

theorem Steps.trans (first : Steps worker config w history w₁)
    (second : Steps worker config w₁ later w') : Steps worker config w (history ++ later) w' := by
  induction second with
  | nil => rwa [List.append_nil]
  | snoc _ next ih =>
    rw [← List.append_assoc]
    exact .snoc ih next

theorem Step.steps (next : Step worker config w events w') : Steps worker config w events w' :=
  .snoc .nil next

/-- An execution for which a permit has been taken goes on whatever the others do. -/
theorem Step.goesOn {earlier later : List (Job P)} {stage stage' : JobStage P} {left' : Nat}
    (next : JobStage.Step id left stage asked left' stage') (admitted : stage ≠ .queued) :
    Step worker config ⟨left, before ++ .executing (earlier ++ ⟨id, stage⟩ :: later) :: after⟩
      (asked.map .asked) ⟨left', before ++ .executing (earlier ++ ⟨id, stage'⟩ :: later) :: after⟩ :=
  .work rfl (fun queued => absurd queued admitted) next

/-- A call takes a permit for the first task that has none, if one is left. -/
theorem Step.acquires {earlier later : List (Job P)}
    (here : w.calls = before ++ .executing (earlier ++ ⟨id, .queued⟩ :: later) :: after)
    (spawned : ∀ job ∈ earlier, job.stage.Spawned) (enough : 0 < w.left) :
    Step worker config w []
      ⟨w.left - 1, before ++ .executing (earlier ++ ⟨id, .admitted⟩ :: later) :: after⟩ := by
  have taken : JobStage.Step (P := P) id w.left .queued [] (w.left - 1) .admitted := by
    obtain ⟨left, left_eq⟩ : ∃ n, w.left = n + 1 := ⟨w.left - 1, by omega⟩
    rw [left_eq]
    exact .acquire left
  exact .work here (fun _ => spawned) taken

/-! ### Permits are conserved -/

/-- No step makes or loses a permit. -/
theorem Step.conserves (step : Step worker config w events w') :
    w'.left + w'.held = w.left + w.held := by
  cases step with
  | call => simp [held, stages, Ongoing.stages]
  | refuse here => simp [held, stages, here, Ongoing.stages]
  | claim here ts =>
    have queued : (ts.map fun t => (Job.queued t : Job P).stage).countP JobStage.holdsPermit = 0 := by
      simp [Job.queued, JobStage.holdsPermit]
    simp [held, stages, here, Ongoing.stages, Function.comp_def, queued]
  | work here inTurn next =>
    have conserved := next.conserves
    simp only [held, stages, here, Ongoing.stages, List.flatMap_append, List.flatMap_cons,
      List.map_append, List.map_cons, List.countP_append, List.countP_cons]
    omega
  | return_ here ended =>
    have none_held : ∀ verdicts : List Verdict,
        (verdicts.map (.released : Verdict → JobStage P)).countP JobStage.holdsPermit = 0 := by
      simp [JobStage.holdsPermit]
    simp [held, stages, here, Ongoing.stages, ended, none_held]

theorem Steps.conserves (steps : Steps worker config w history w') :
    w'.left + w'.held = w.left + w.held := by
  induction steps with
  | nil => rfl
  | snoc _ next ih => exact next.conserves.trans ih

/-- Handlers in progress hold permits. -/
theorem handling_le_held (w : Pool P) : w.handling ≤ w.held :=
  List.countP_mono_left fun _ _ => JobStage.holdsPermit_of_handles

/-- If nothing is in progress, permits are held only by calls that are about to spawn. -/
theorem exists_admitted (resting : ∀ s ∈ w.stages, ¬ s.InProgress) (some_held : 0 < w.held) :
    .admitted ∈ w.stages := by
  obtain ⟨s, hs, holds⟩ := List.countP_pos_iff.1 some_held
  cases s with
  | admitted => exact hs
  | running | ended => exact absurd trivial (resting _ hs)
  | queued | released => cases holds

/-- A call that has taken a permit can spawn the execution. -/
theorem Step.exists_spawn (h : .admitted ∈ w.stages) :
    ∃ w', Step worker config w [] w' ∧ ∃ s ∈ w'.stages, s.InProgress := by
  obtain ⟨call, hcall, hs⟩ := List.mem_flatMap.1 h
  cases call with
  | claiming => cases hs
  | executing jobs =>
    obtain ⟨⟨id, _⟩, hjob, rfl⟩ := List.mem_map.1 hs
    obtain ⟨earlier, later, rfl⟩ := List.append_of_mem hjob
    obtain ⟨before, after, here⟩ := List.append_of_mem hcall
    have spawned : Step worker config w ([].map .asked) _ :=
      .work here (fun never => nomatch never) (.spawn w.left)
    refine ⟨_, spawned, .running (Dialogue.execute id), ?_, trivial⟩
    simp [stages, Ongoing.stages]

/-! ### Batches of the worker are such steps -/

/-- A dialogue of an execution, answered as on one of its ways. -/
theorem steps_of_path {d : Dialogue P Verdict} {verdict : Verdict} (path : d.Path asked verdict)
    (left : Nat) (before after : List (Ongoing P)) (earlier later : List (Job P)) (id : Uuid) :
    Steps worker config ⟨left, before ++ .executing (earlier ++ ⟨id, .running d⟩ :: later) :: after⟩
      (asked.map .asked)
      ⟨left, before ++ .executing (earlier ++ ⟨id, .ended verdict⟩ :: later) :: after⟩ := by
  induction d generalizing asked with
  | done a =>
    obtain ⟨rfl, rfl⟩ := path
    exact (Step.goesOn (.finish left) nofun).steps
  | ask request next ih =>
    obtain ⟨answer, rest, rfl, path⟩ := path
    exact (Step.goesOn (.answer left answer) nofun).steps.trans (ih answer path)
  | report event next ih =>
    exact (Step.goesOn (.report left) nofun).steps.trans (ih path)

/-- An execution takes a permit, runs, and gives the permit back. -/
theorem steps_of_course {verdict : Verdict} (course : Course id asked verdict) (left : Nat)
    (before after : List (Ongoing P)) {earlier : List (Job P)} (later : List (Job P))
    (spawned : ∀ job ∈ earlier, job.stage.Spawned) :
    Steps worker config ⟨left + 1, before ++ .executing (earlier ++ ⟨id, .queued⟩ :: later) :: after⟩
      (asked.map .asked)
      ⟨left + 1, before ++ .executing (earlier ++ ⟨id, .released verdict⟩ :: later) :: after⟩ := by
  have taken : Steps worker config
      ⟨left + 1, before ++ .executing (earlier ++ ⟨id, .queued⟩ :: later) :: after⟩ _ _ :=
    (Step.acquires rfl spawned (Nat.succ_pos left)).steps
  have executed := (taken.snoc (.goesOn (.spawn left) nofun)).trans
    (steps_of_path (path_execute.2 course) left before after earlier later id)
  simpa using executed.snoc (.goesOn (.release left) nofun)

/-- Executions take their permits one after the other. -/
theorem steps_of_courses {ts : List Task} {courses : List (List (Asked P) × Verdict)}
    (each : List.Forall₂ (fun t course => Course t.id course.1 course.2) ts courses) (left : Nat)
    (before after : List (Ongoing P)) {earlier : List (Job P)} {verdicts : List Verdict}
    (ended : earlier.map (·.stage) = verdicts.map .released) :
    ∃ jobs : List (Job P), jobs.length = earlier.length + ts.length ∧
      jobs.map (·.stage) = (verdicts ++ courses.map (·.2)).map .released ∧
      Steps worker config ⟨left + 1, before ++ .executing (earlier ++ ts.map .queued) :: after⟩
        ((courses.flatMap (·.1)).map .asked) ⟨left + 1, before ++ .executing jobs :: after⟩ := by
  induction each generalizing earlier verdicts with
  | nil =>
    refine ⟨earlier, by simp, by simpa using ended, ?_⟩
    simpa using Steps.nil
  | @cons t course ts courses head _ ih =>
    have spawned : ∀ job ∈ earlier, job.stage.Spawned := by
      intro job hjob
      have released : job.stage ∈ verdicts.map .released := ended ▸ List.mem_map_of_mem hjob
      obtain ⟨verdict, -, stage_eq⟩ := List.mem_map.1 released
      exact stage_eq ▸ trivial
    have first : Steps worker config _ _ _ :=
      steps_of_course head left before after (ts.map .queued) spawned
    have over_next : (earlier ++ [(⟨t.id, .released course.2⟩ : Job P)]).map (·.stage) =
        (verdicts ++ [course.2]).map .released := by
      simp [ended]
    obtain ⟨jobs, length_eq, stages_eq, rest⟩ := ih over_next
    rw [List.append_assoc, List.singleton_append] at rest
    refine ⟨jobs, ?_, by simpa using stages_eq, ?_⟩
    · rw [length_eq, List.length_append, List.length_singleton, List.length_cons]
      omega
    · rw [List.flatMap_cons, List.map_append]
      exact first.trans rest

/-- A batch of the worker, whatever is answered, is a sequence of steps, as long as a permit is left. -/
theorem steps_of_runOnce {result : Outcome Tally} (enough : 0 < w.left)
    (path : (Dialogue.runOnce worker config).Path asked result) :
    Steps worker config w (asked.map .asked ++ [.returned result]) w := by
  obtain ⟨left, calls⟩ := w
  obtain ⟨left, rfl⟩ : ∃ n, left = n + 1 := ⟨left - 1, by simp only at enough; omega⟩
  have begun : Steps worker config (⟨left + 1, calls⟩ : Pool P) _ _ := Step.call.steps
  rcases path_runOnce.1 path with ⟨failure, rfl, rfl⟩ | ⟨ts, courses, each, rfl, rfl⟩
  · simpa using begun.snoc (.refuse rfl failure)
  · have claimed := begun.snoc (.claim rfl ts)
    have none_ended : ([] : List (Job P)).map (·.stage) = ([] : List Verdict).map .released := rfl
    obtain ⟨jobs, length_eq, stages_eq, executed⟩ := steps_of_courses each left calls [] none_ended
    have returned := (claimed.trans executed).snoc (.return_ rfl stages_eq)
    simpa [length_eq] using returned

/-- A dialogue of an execution comes to every request of each of its ways. -/
theorem steps_to_request {d : Dialogue P Verdict} {verdict : Verdict} {first rest : List (Asked P)}
    {request : Request P} {answer : request.Answer}
    (path : d.Path (first ++ ⟨request, answer⟩ :: rest) verdict) (left : Nat)
    (before after : List (Ongoing P)) (earlier later : List (Job P)) (id : Uuid) :
    ∃ next, Steps worker config
      ⟨left, before ++ .executing (earlier ++ ⟨id, .running d⟩ :: later) :: after⟩ (first.map .asked)
      ⟨left, before ++ .executing (earlier ++ ⟨id, .running (.ask request next)⟩ :: later) ::
        after⟩ := by
  induction d generalizing first with
  | done a =>
    obtain ⟨never, -⟩ := path
    cases first <;> cases never
  | ask request' next ih =>
    obtain ⟨answer', rest', same, path⟩ := path
    cases first with
    | nil =>
      cases same
      exact ⟨next, .nil⟩
    | cons y first =>
      obtain ⟨rfl, rfl⟩ := List.cons.inj same
      obtain ⟨next', steps⟩ := ih answer' path
      exact ⟨next', (Step.goesOn (.answer left answer') nofun).steps.trans steps⟩
  | report event next ih =>
    obtain ⟨next', steps⟩ := ih path
    exact ⟨next', (Step.goesOn (.report left) nofun).steps.trans steps⟩

/-- A call that can take a permit comes to the handler of its task, if the answers lead there. -/
theorem steps_to_handler {start : Pool P} {earlier later : List (Job P)} {t : Task}
    (steps : Steps worker config start history
      ⟨left + 1, before ++ .executing (earlier ++ .queued t :: later) :: after⟩)
    (spawned : ∀ job ∈ earlier, job.stage.Spawned) {table : Processors P} {p : P}
    (registered : table.find? t.taskType = some p) : ∃ events next,
      Steps worker config start events ⟨left, before ++ .executing
        (earlier ++ ⟨t.id, .running (.ask (.process p t) next)⟩ :: later) :: after⟩ := by
  have begun := (steps.snoc (.acquires rfl spawned (Nat.succ_pos left))).snoc
    (.goesOn (.spawn left) nofun)
  have course : Course t.id
      ([.start t.id (.ok t), .processors table] ++ .process p t .succeeded :: [.complete t.id (.ok t)])
      .completed :=
    .succeeded registered (.ok t)
  obtain ⟨next, handled⟩ := steps_to_request (path_execute.2 course) left before after earlier later t.id
  exact ⟨_, next, begun.trans handled⟩

/-! ### What is promised -/

/-- What is promised of a worker at every moment. -/
structure Bounded (worker : String) (config : Settings.Worker) (w : Pool P) : Prop where
  handling_le : w.handling ≤ max 1 config.maxConcurrency
  conserved : w.left + w.held = max 1 config.maxConcurrency
  /-- When no call is in progress, all permits are left. -/
  idle : w.calls = [] → w.left = max 1 config.maxConcurrency
  /-- A call waits for a permit, and no execution is in progress. Then it can take a permit, or a call
  that has just taken one can spawn its execution. -/
  unblocked : ∀ {before after : List (Ongoing P)} {earlier later : List (Job P)} {id : Uuid},
    w.calls = before ++ .executing (earlier ++ ⟨id, .queued⟩ :: later) :: after →
    (∀ job ∈ earlier, job.stage.Spawned) → (∀ s ∈ w.stages, ¬ s.InProgress) →
    Step worker config w []
        ⟨w.left - 1, before ++ .executing (earlier ++ ⟨id, .admitted⟩ :: later) :: after⟩ ∨
      ∃ w', Step worker config w [] w' ∧ ∃ s ∈ w'.stages, s.InProgress

/-- **Parallelism is bounded.** Batches of a worker overlap, their steps follow one another in any order,
and all that is asked is answered in any way. At every moment no more handlers are in progress than the
worker has permits, no permit is lost, and no call waits in vain for one. -/
theorem parallelism_bounded (reachable : Reachable worker config w) : Bounded worker config w := by
  obtain ⟨history, steps⟩ := reachable
  have conserved : w.left + w.held = max 1 config.maxConcurrency := steps.conserves
  refine ⟨?_, conserved, fun none => ?_, fun here inTurn resting => ?_⟩
  · have bound := w.handling_le_held
    omega
  · have nothing_held : w.held = 0 := by simp [held, stages, none]
    omega
  · by_cases some_left : 0 < w.left
    · exact .inl (.acquires here inTurn some_left)
    · exact .inr (Step.exists_spawn (exists_admitted resting (by omega)))

def numberedMail (n : Nat) : Task :=
  .ofNew { taskType := "mail", payload := .null } (.ofNat n) .epoch

/-- A worker with two permits has claimed three mails. Two handlers are in progress, and the third mail
waits for a permit. -/
theorem parallelism_bounded_of_three : ∃ w : Pool Unit,
    Reachable "a" { maxConcurrency := 2 } w ∧ w.handling = 2 ∧ w.left = 0 ∧
      Bounded "a" { maxConcurrency := 2 } w := by
  have known : (⟨[("mail", ())]⟩ : Processors Unit).find? "mail" = some () := by decide
  have claimed : Steps "a" { maxConcurrency := 2 } (⟨2, []⟩ : Pool Unit) _
      ⟨2, [] ++ .executing ([] ++ .queued (numberedMail 1) ::
        [.queued (numberedMail 2), .queued (numberedMail 3)]) :: []⟩ :=
    Step.call.steps.snoc (.claim rfl [numberedMail 1, numberedMail 2, numberedMail 3])
  obtain ⟨events, next, handled⟩ := steps_to_handler claimed nofun known
  have handled : Steps "a" { maxConcurrency := 2 } (⟨2, []⟩ : Pool Unit) events
      ⟨0 + 1, [] ++ .executing ([⟨(numberedMail 1).id, .running (.ask (.process () _) next)⟩] ++
        .queued (numberedMail 2) :: [.queued (numberedMail 3)]) :: []⟩ := handled
  obtain ⟨_, _, both⟩ := steps_to_handler handled (by simp [JobStage.Spawned]) known
  exact ⟨_, ⟨_, both⟩, rfl, rfl, parallelism_bounded ⟨_, both⟩⟩

end Pool

end Worker

/-! ### Batches in virtual time -/

namespace Simulation

namespace Shift

open Worker

variable {b : Backend Sim} {s : Shift} {limit : Nat} {asleep others : List Sleeper}
  {first : Sleeper}

/-- No more handlers are asleep than there are permits, and a task waits only if all permits are held. -/
structure Within (s : Shift) : Prop where
  asleep_le : s.asleep.length ≤ s.permits
  busy : s.waiting ≠ [] → s.asleep.length = s.permits

theorem within_fill (ids : List Uuid) (tally : Tally) (few : asleep.length ≤ limit) (w : World) :
    ((fill b limit asleep tally ids).run w).1.permits = limit ∧
      ((fill b limit asleep tally ids).run w).1.Within := by
  induction ids generalizing asleep tally w with
  | nil => exact ⟨rfl, few, fun waiting => absurd rfl waiting⟩
  | cons id rest ih =>
    rw [fill]
    split
    · rename_i full
      exact ⟨rfl, few, fun _ => Nat.le_antisymm few full⟩
    · rename_i some_left
      rw [run_bind]
      cases ((startTask b id).run w).1 with
      | inl verdict => exact ih _ few _
      | inr sleeper =>
        have room : (asleep ++ [sleeper]).length ≤ limit := by
          rw [List.length_append, List.length_singleton]; omega
        exact ih _ room _

/-- A new batch keeps to the permits of its worker. -/
theorem within_begin_ (config : Settings.Worker) (claimed : List Task) (w : World) :
    ((begin_ b config claimed).run w).1.permits = max 1 config.maxConcurrency ∧
      ((begin_ b config claimed).run w).1.Within :=
  within_fill _ _ (Nat.zero_le _) w

/-- One sleeper wakes at a time. -/
theorem length_of_next? (h : s.next? = some (first, others)) :
    others.length + 1 = s.asleep.length := by
  unfold next? at h
  split at h
  · cases h
  · rename_i moment earliest
    rw [List.partition_eq_filter_filter] at h
    split at h
    · rename_i same later split_eq
      obtain ⟨due, rest⟩ := Prod.mk.inj split_eq
      obtain ⟨rfl, rfl⟩ := Prod.mk.inj (Option.some.inj h)
      have parts := List.length_eq_length_filter_add (l := s.asleep)
        fun sleeper => decide (sleeper.wakesAt = moment)
      rw [due, ← Function.comp_def not, rest] at parts
      simp only [List.length_append, List.length_cons] at parts ⊢
      omega
    · cases h

/-- A batch of which a handler has woken still does. -/
theorem within_wake (within : s.Within) (h : s.next? = some (first, others)) (w : World) :
    ((s.wake b first others).run w).1.permits = s.permits ∧
      ((s.wake b first others).run w).1.Within := by
  have fewer := length_of_next? h
  have bound := within.asleep_le
  rw [wake, run_bind]
  exact within_fill _ _ (by omega) _

end Shift

end Simulation

end WorkQueue
