import WorkQueue.Simulation.Run

/-!
# Simulated steps

What a caller may do with the queue of a simulated world, and how a sequence of such steps runs:
the clock moves between steps only, and tasks are named by their numbers.

## Main definitions

* `Simulation.Step`, `Simulation.Reply`: the steps and their results
* `Simulation.Step.perform`: one step
* `Simulation.Scenario`, `Simulation.Scenario.run`: a sequence of steps
-/

namespace WorkQueue.Simulation

/-- What a caller does. Tasks are given by the numbers of their identifiers. -/
inductive Step where
  | registerType (t : NewTaskType)
  /-- Stores a type without telling the registries. -/
  | upsertType (t : NewTaskType)
  /-- Looks up a stored type without asking the registries. -/
  | findType (name : String)
  | getType (name : String) (other : Bool)
  | loadTypes (other : Bool)
  | cachedNames (other : Bool)
  | listTypes
  | seedTypes (entries : List Settings.TaskTypeEntry)
  | enqueue (spec : NewTask)
  | createChain (specs : List NewTask)
  | cancel (task : Nat)
  | claim (worker : String) (limit : Nat)
  | start (task : Nat)
  | complete (task : Nat)
  | fail (task : Nat) (message : String)
  | find (task : Nat)
  | detail (task : Nat)
  | readLog (task : Nat)
  | appendLog (task : Nat) (level : LogLevel) (message : String)
  | list (filter : Filter) (request : PageRequest)
  | metrics
  | check (thresholds : Settings.Monitor)
  | monitor (thresholds : Settings.Monitor) (forMs : Nat)
  /-- Looks at all created tasks. -/
  | survey
  | addDependency (task prerequisite : Nat)
  | dependenciesOf (task : Nat)
  | isSatisfied (task : Nat)
  | registerProcessor (taskType : String) (handler : Handler)
  | unregisterProcessor (taskType : String)
  | processorNames
  | resolveProcessor (taskType : String)
  /-- Moves the clock by nanoseconds. -/
  | advance (nanos : Nat)
  | runOnce (config : Settings.Worker)
  | serve (config : Settings.Worker) (forMs : Nat)
  | runTwice (config : Settings.Worker) (forMs : Nat)
  deriving Inhabited

/-- What a worker did during a step. -/
structure Activity where
  worker : String
  /-- The tasks whose handlers were entered, in this order. -/
  calls : List Uuid
  /-- The largest number of handlers that were active at once. -/
  maxActive : Nat
  deriving Inhabited

/-- The result of a step. -/
inductive Reply where
  | done
  | bool (b : Bool)
  | count (n : Nat)
  | names (names : List String)
  | type (t : TaskType)
  | optionalType (t : Option TaskType)
  | types (ts : List TaskType)
  | task (t : Task)
  | optionalTask (t : Option Task)
  | tasks (ts : List Task)
  | detail (d : TaskDetail)
  | log (entries : List LogEntry)
  | page (p : Page Task)
  | metrics (m : Metrics)
  | report (r : Monitor.Report)
  | dependency (d : Dependency)
  | dependencies (ds : List Dependency)
  | batch (activity : Activity) (tally : Worker.Tally)
  | service (activity : Activity) (stopped : Outcome Unit)
  | secondRun (activity : Activity) (seen : SecondRun)
  deriving Inhabited

/-- The name of a worker: the configured one, or one made from a new identifier. -/
def workerName (config : Settings.Worker) : Sim String := do
  match config.workerId with
  | some name => return name
  | none => return config.resolvedId "<pid>" (← Host.freshId)

/-- Runs a worker and looks at its activity. -/
def observe {α : Type} (config : Settings.Worker) (run : String → Sim α) : Sim (Activity × α) := do
  let worker ← workerName config
  clearCalls
  let result ← run worker
  let w ← getThe World
  return (⟨worker, w.calls.reverse, w.maxActive⟩, result)

/-- Listens for notifications if the configuration and the storage provide for it. -/
def listenFor (config : Settings.Worker) : Sim (Outcome Unit) := do
  if config.listenForNotifications && (← getThe World).storage = .scripted then
    let result ← runSession Database.listen.run
    receiveNotifications
    return result
  else return .ok ()

/-- The stored tasks with numbers up to the last one handed out. -/
def surveyTasks (b : Backend Sim) (w : World) : List Nat → Sim (Outcome (List Task))
  | [] => return .ok []
  | n :: rest => do
    match ← b.find (w.idOf n) with
    | .error failure => return .error failure
    | .ok found =>
      match ← surveyTasks b w rest with
      | .error failure => return .error failure
      | .ok others => return .ok (found.toList ++ others)

/-- Carries out a step. -/
def Step.perform (step : Step) : Sim (Outcome Reply) := do
  let w ← getThe World
  let b := w.backend
  match step with
  | .registerType t => return (← withCache false (TypeRegistry.register · t)).map .type
  | .upsertType t => return (← b.upsertType t).map .type
  | .findType name => return (← b.findType name).map .optionalType
  | .getType name other => return (← withCache other (TypeRegistry.get · name)).map .type
  | .loadTypes other => return (← withCache other TypeRegistry.load).map .count
  | .cachedNames other => return .ok (.names (if other then w.otherCache else w.cache).names)
  | .listTypes => return (← b.listTypes).map .types
  | .seedTypes entries => return (← withCache false (TypeRegistry.seed · entries)).map .types
  | .enqueue spec => return (← Producer.enqueue b wake spec).map .task
  | .createChain specs => return (← Producer.createChain b wake specs).map .tasks
  | .cancel task => return (← Producer.cancel b (w.idOf task)).map .task
  | .claim worker limit => return (← b.claim worker limit).map .tasks
  | .start task => return (← b.start (w.idOf task)).map .task
  | .complete task => return (← b.complete (w.idOf task)).map .task
  | .fail task message => return (← b.fail (w.idOf task) message).map .task
  | .find task => return (← b.find (w.idOf task)).map .optionalTask
  | .detail task => return (← Producer.detail b (w.idOf task)).map .detail
  | .readLog task => return (← b.readLog (w.idOf task)).map .log
  | .appendLog task level message =>
    WorkQueue.appendLog b.writeLog ⟨w.idOf task, level, message⟩
    return .ok .done
  | .list filter request => return (← b.list filter request).map .page
  | .metrics => return (← b.metrics).map .metrics
  | .check thresholds => return (← Monitor.check b thresholds).map .report
  | .monitor thresholds forMs =>
    Simulation.monitor b thresholds forMs
    return .ok .done
  | .survey => return (← surveyTasks b w (List.range' 1 w.drawn)).map .tasks
  | .addDependency task prerequisite =>
    return (← b.addDependency (w.idOf task) (w.idOf prerequisite)).map .dependency
  | .dependenciesOf task => return (← b.dependenciesOf (w.idOf task)).map .dependencies
  | .isSatisfied task => return (← b.isSatisfied (w.idOf task)).map .bool
  | .registerProcessor taskType handler =>
    let processors ← w.processors.register taskType handler
    modifyThe World fun w => { w with processors := processors }
    return .ok .done
  | .unregisterProcessor taskType =>
    let (known, processors) := w.processors.unregister taskType
    modifyThe World fun w => { w with processors := processors }
    return .ok (.bool known)
  | .processorNames => return .ok (.names w.processors.names)
  | .resolveProcessor taskType => return (w.processors.resolve taskType).map fun _ => .done
  | .advance nanos =>
    modifyThe World fun w => { w with clock := w.clock.addNanos nanos }
    return .ok .done
  | .runOnce config =>
    let (activity, outcome) ← observe config fun worker => runBatch b worker config
    return outcome.map (.batch activity)
  | .serve config forMs =>
    match ← listenFor config with
    | .error failure => return .error failure
    | .ok () =>
      let (activity, stopped) ← observe config fun worker => Simulation.serve b worker config forMs
      return .ok (.service activity stopped)
  | .runTwice config forMs =>
    let (activity, seen) ← observe config fun worker => Simulation.runTwice b worker config forMs
    return .ok (.secondRun activity seen)

/-! ### Sequences -/

/-- The result of a step, and what a scripted database saw of it. -/
structure Observation where
  result : Outcome Reply
  /-- What was sent: each text with its values. -/
  sent : List (String × List Json)
  /-- How many answers were left. -/
  unused : Nat

/-- A sequence of steps, each with the answers of the database during the step. -/
structure Scenario where
  world : World
  /-- By how many nanoseconds the clock moves after each step. -/
  tickNanos : Nat
  steps : List (Step × List Database.Script.Entry)

/-- Carries out a step with a script of its own. Beside a scripted database a failed step hands
back its identifiers. -/
def observeStep (step : Step) (entries : List Database.Script.Entry) (w : World) :
    Observation × World :=
  let (result, after) := step.perform.run { w with script := { entries := entries } }
  let drawn :=
    match result, w.storage with
    | .error _, .scripted => w.drawn
    | _, _ => after.drawn
  (⟨result, after.script.sent.reverse, after.script.entries.length⟩, { after with drawn := drawn })

/-- Carries out steps, moving the clock after each one. -/
def runSteps (tickNanos : Nat) (w : World) :
    List (Step × List Database.Script.Entry) → List Observation × World
  | [] => ([], w)
  | (step, entries) :: rest =>
    let (observation, w) := observeStep step entries w
    let (observations, w) := runSteps tickNanos { w with clock := w.clock.addNanos tickNanos } rest
    (observation :: observations, w)

/-- Carries out the steps of a scenario; returns what was observed and the reported events. -/
def Scenario.run (s : Scenario) : List Observation × List Telemetry.Event :=
  let (observations, w) := runSteps s.tickNanos s.world s.steps
  (observations, w.events.reverse)

end WorkQueue.Simulation
