import WorkQueue.CommandLine.Help
import WorkQueue.Filter
import WorkQueue.Page
import WorkQueue.Settings.Loader

/-!
# The command line

The commands that operators give to the queue, and the grammar of their words.

## Main definitions

* `CommandLine.Command`, `CommandLine.Invocation`: what is to be done, and with which settings
* `CommandLine.root`: the grammar
* `CommandLine.read`: what the words of a command line ask for
-/

namespace WorkQueue.CommandLine

/-- What the program is asked to do. -/
inductive Command where
  | migrate
  | validateConfig
  | listTypes
  | syncTypes
  | listTasks (filter : Filter) (page perPage : Nat)
  | showTask (id : Uuid)
  | cancelTask (id : Uuid)
  | metrics
  | monitor
  deriving DecidableEq, Inhabited

/-- A command, and where its settings are read from if not from the default places. -/
structure Invocation where
  environment : Option String
  directory : Option String
  command : Command
  deriving DecidableEq, Inhabited

/-- What a command line asks for. -/
inductive Request where
  | run (invocation : Invocation)
  /-- A text to be shown. -/
  | show_ (text : String)
  /-- Nothing: its words are refused, with a reason. -/
  | refuse (reason : String)

/-! ### Values -/

/-- A natural number of 32 bits; a sign is allowed. -/
def readCount? (s : String) : Option Nat :=
  ((Text.word? 10 s.toList).bind IntRange.nat32.keep?).map Int.toNat

/-- A value with a reader. -/
def readable {α : Type} (name : String) (reader : String → Option α) : Parameter where
  name := name
  accepts s := (reader s).isSome

/-! ### The grammar -/

def environmentOption : Opt where
  short := some 'e'
  long := "environment"
  value := {
    name := "ENVIRONMENT"
    about := "Environment overlay to load (development, test, production, ...)" }
  fallback := some "TASK_QUEUE_ENV"

def directoryOption : Opt where
  short := some 'c'
  long := "config-dir"
  value := {
    name := "CONFIG_DIR"
    accepts := fun s => !s.isEmpty
    about := "Configuration directory (default: config)" }
  fallback := some "TASK_QUEUE_CONFIG_DIR"

def typesSpec : Spec where
  name := "types"
  about := "Task type administration"
  subcommands := [
    { name := "list", about := "List registered task types" },
    { name := "sync", about := "Upsert the task types declared in configuration" }]

def listTasksSpec : Spec where
  name := "list"
  about := "List tasks, newest first"
  options := [
    { long := "status", value := readable "STATUS" Status.ofText? },
    { long := "type", value := { name := "TASK_TYPE" } },
    { long := "page", value := readable "PAGE" readCount?, default := some "1" },
    { long := "per-page", value := readable "PER_PAGE" readCount?
      default := some (toString PageRequest.defaultPerPage) }]

def tasksSpec : Spec where
  name := "tasks"
  about := "Task inspection and cancellation"
  subcommands := [
    listTasksSpec,
    { name := "show", about := "Show a task with its dependencies and log"
      positionals := [readable "ID" Uuid.ofText?] },
    { name := "cancel", about := "Cancel a task that has not reached a terminal state"
      positionals := [readable "ID" Uuid.ofText?] }]

/-- The whole command line. -/
def root : Spec where
  name := "task-queue"
  about := "Administer the task queue"
  version := some "task-queue 0.1.0"
  options := [environmentOption, directoryOption]
  subcommands := [
    { name := "migrate", about := "Apply outstanding database migrations" },
    { name := "validate-config"
      about := "Load and validate configuration, printing it with secrets masked" },
    typesSpec,
    tasksSpec,
    { name := "metrics", about := "Print task counts per status and any threshold alerts" },
    { name := "monitor"
      about := "Check queue metrics on the configured interval until interrupted" }]

/-! ### Reading -/

/-- The value of an option that has been given or completed. -/
def Matches.option? (m : Matches) (long : String) : Option String :=
  (m.options.find? fun given => given.1 = long).map (·.2)

/-- The identifier that is the first argument by position. -/
def Matches.id? (m : Matches) : Option Uuid := m.positionals.head?.bind Uuid.ofText?

/-- The command that complete matches stand for. -/
def Matches.command? (m : Matches) : Option Command :=
  match m.path.drop 1 with
  | ["migrate"] => some .migrate
  | ["validate-config"] => some .validateConfig
  | ["types", "list"] => some .listTypes
  | ["types", "sync"] => some .syncTypes
  | ["tasks", "list"] => do
    let filter : Filter := {
      status := (m.option? "status").bind Status.ofText?
      taskType := m.option? "type" }
    let page ← (m.option? "page").bind readCount?
    let perPage ← (m.option? "per-page").bind readCount?
    some (.listTasks filter page perPage)
  | ["tasks", "show"] => m.id?.map .showTask
  | ["tasks", "cancel"] => m.id?.map .cancelTask
  | ["metrics"] => some .metrics
  | ["monitor"] => some .monitor
  | _ => none

/-- The options of the commands that a path leads through. -/
def Spec.optionsAlong (spec : Spec) : List String → List Opt
  | [] => spec.options
  | name :: rest =>
    match spec.find? name with
    | none => spec.options
    | some sub => spec.options ++ sub.optionsAlong rest

/-- What the words after the name of the program ask for; `lookup` finds the values of
variables. -/
def read (lookup : String → Option String) (words : List String) : Request :=
  match root.parse { path := [root.name] } none false words with
  | .help spec path => .show_ (spec.help path lookup)
  | .version text => .show_ (text ++ "\n")
  | .refused reason => .refuse reason
  | .matched m =>
    match Spec.completeFrom lookup (root.optionsAlong (m.path.drop 1)) m with
    | .error reason => .refuse reason
    | .ok m =>
      match m.command? with
      | none => .refuse "a subcommand is required"
      | some command =>
        .run ⟨m.option? environmentOption.long, m.option? directoryOption.long, command⟩

end WorkQueue.CommandLine
