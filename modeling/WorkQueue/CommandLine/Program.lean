import WorkQueue.CommandLine
import WorkQueue.CommandLine.Logging
import WorkQueue.Database.Opening
import WorkQueue.Database.Store
import WorkQueue.Monitor
import WorkQueue.Producer
import WorkQueue.Settings.Masking
import WorkQueue.Wire.Settings
import WorkQueue.Wire.Tasks

/-!
# The program

What a command does and what it prints. The program is a session, so that it can be followed for any
answers of the database.

## Main definitions

* `CommandLine.Command.perform`: the output of a command
* `CommandLine.program`: from the words of a command line to the end of the process
-/

namespace WorkQueue.CommandLine

open Database Session

/-- How the process ends, and what it has printed. -/
structure Exit where
  code : Nat
  out : String := ""
  err : String := ""
  deriving DecidableEq, Inhabited

/-- Why a command is not carried out. -/
inductive Abort where
  | settings (e : Settings.Error)
  | failure (f : Failure)
  deriving DecidableEq, Inhabited

def Abort.message : Abort → String
  | settings e => e.message
  | failure f => f.message

/-- A value on lines of its own. -/
def pretty (value : Json) : String := value.renderPretty ++ "\n"

/-- Opens the queue and goes on with its storage and its cache of types. -/
def withQueue (s : Settings) (use : Backend Session → TypeCache → Fallible String) :
    Fallible String := do
  let cache ← openQueue s
  use (backend s.backoff) cache

/-- Samples the metrics a number of times. -/
def watch (b : Backend Session) (thresholds : Settings.Monitor) : Nat → Session Unit
  | 0 => return ()
  | rounds + 1 => do
    Monitor.round b thresholds
    watch b thresholds rounds

/-- Carries out a command; the result is its output. The monitor is interrupted after `rounds`
samples. -/
def Command.perform (rounds : Nat) (loaded : Settings.Loaded) : Command → Fallible String
  | .validateConfig =>
    return pretty (Wire.ofSettings loaded.settings.sanitized).normalize ++
      s!"Configuration for '{loaded.environment}' is valid\n"
  | .migrate => do
    connected { loaded.settings.database with runMigrations := false }
    applyMigrations
    (Host.report .info "task_queue" "Migrations applied" : Session Unit)
    return ""
  | .listTypes => withQueue loaded.settings fun b _ => do
    let types ← ExceptT.mk b.listTypes
    return pretty (.array (types.map Wire.ofTaskType))
  | .syncTypes => withQueue loaded.settings fun b cache => do
    let (result, _) ← (TypeRegistry.seed b loaded.settings.taskTypes).run cache
    let types ← ExceptT.mk (pure result)
    return s!"Synced {types.length} task type(s)\n"
  | .listTasks filter number size => withQueue loaded.settings fun b _ => do
    let request ← ExceptT.mk (pure (PageRequest.make number size))
    let tasks ← ExceptT.mk (b.list filter request)
    return pretty (Wire.ofPage Wire.ofTask tasks)
  | .showTask id => withQueue loaded.settings fun b _ => do
    let detail ← ExceptT.mk (Producer.detail b id)
    return pretty (Wire.ofTaskDetail detail)
  | .cancelTask id => withQueue loaded.settings fun b _ => do
    let t ← ExceptT.mk (Producer.cancel b id)
    return s!"Task {t.id} is now {t.status}\n"
  | .metrics => withQueue loaded.settings fun b _ => do
    let report ← ExceptT.mk (Monitor.check b loaded.settings.monitor)
    return pretty (Wire.ofReport report)
  | .monitor => withQueue loaded.settings fun b _ => do
    (Monitor.started loaded.settings.monitor : Session Unit)
    watch b loaded.settings.monitor rounds
    (Monitor.stopped : Session Unit)
    return ""

/-- Loads the settings and carries out the command. -/
def Invocation.run (p : Settings.Surroundings) (rounds : Nat) (i : Invocation) :
    ExceptT Abort Session String := do
  let loading : Session (Except Settings.Error Settings.Loaded) :=
    Settings.load p (i.directory.getD p.directory) (i.environment.getD p.environment)
  let loaded ← ExceptT.adapt Abort.settings (ExceptT.mk loading)
  ExceptT.adapt Abort.failure (i.command.perform rounds loaded)

/-- Does what the words after the name of the program ask for. -/
def program (p : Settings.Surroundings) (rounds : Nat) (words : List String) : Session Exit := do
  Host.report .info "task_queue::logging" "Logging ready"
    [("environment", .shown p.environment), ("format", .shown (LogFormat.choose p).name),
      ("installed", .bool true)]
  match read p.lookup? words with
  | .show_ text => return ⟨0, text, ""⟩
  | .refuse reason => return ⟨2, "", s!"error: {reason}\n"⟩
  | .run i =>
    match ← (i.run p rounds).run with
    | .ok out => return ⟨0, out, ""⟩
    | .error abort =>
      Host.report .error "task_queue" "Command failed" [("error", .shown abort.message)]
      return ⟨1, "", s!"error: {abort.message}\n"⟩

end WorkQueue.CommandLine
