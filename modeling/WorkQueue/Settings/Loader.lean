import WorkQueue.Host
import WorkQueue.Settings.Conversion
import WorkQueue.Settings.Format
import WorkQueue.Settings.Sources
import WorkQueue.Settings.Validation

/-!
# Loading settings

The settings of a deployment are read from its directory and its variables. The environment, such as
`test` or `production`, chooses the overlay file.

## Main definitions

* `Settings.Surroundings`: the files and variables of a process
* `Settings.Surroundings.environment`, `directory`: where settings are read from by default
* `Settings.understand`: valid settings from the texts of the sources
* `Settings.load`: the settings of an environment, with reports
-/

namespace WorkQueue.Settings

/-- The files and variables of a process. -/
structure Surroundings where
  /-- The text of the file at a path. -/
  file? : String → Option String
  /-- The variables with their values. -/
  vars : List (String × String)

/-- Loaded settings and where they come from. -/
structure Loaded where
  settings : Settings
  environment : String
  directory : String
  deriving DecidableEq, Inhabited

namespace Surroundings

/-- The value of a variable. -/
def lookup? (p : Surroundings) (name : String) : Option String :=
  (p.vars.find? fun v => v.1 = name).map (·.2)

/-- The environment that the variables name. -/
def environment (p : Surroundings) : String :=
  ((p.lookup? "TASK_QUEUE_ENV").or (p.lookup? "APP_ENV")).getD "development"

/-- The directory of settings that the variables name. -/
def directory (p : Surroundings) : String := (p.lookup? "TASK_QUEUE_CONFIG_DIR").getD "config"

end Surroundings

/-- The path of a file in a directory. -/
def pathIn (directory file : String) : String :=
  if directory.isEmpty || directory.toList.getLast? = some '/' then directory ++ file
  else directory ++ "/" ++ file

/-- The path of the base file. -/
def basePath (directory : String) : String := pathIn directory "task-queue.yaml"

/-- The path of the overlay file of an environment. -/
def overlayPath (directory environment : String) : String :=
  pathIn directory s!"task-queue.{environment}.yaml"

/-- The paths at which an overlay is looked for when there is no file at `path`: the extension of
each format is added, with the format. -/
def extendedPaths (path : String) : List (Format × String) :=
  Format.all.flatMap fun f => f.extensions.map fun e => (f, path ++ "." ++ e)

/-- The overlay at a path, with its format. A file whose name tells no format is left out. -/
def Surroundings.overlay? (p : Surroundings) (path : String) : Option (Format × String) :=
  match p.file? path with
  | some text => (Format.ofPath? path).map fun f => (f, text)
  | none => (extendedPaths path).findSome? fun (f, path) =>
    (p.file? path).map fun text => (f, text)

/-- A value that is there, or else an unreadable source. -/
def readable {α : Type} (text : String) : Option α → Except Error α
  | some a => .ok a
  | none => .error (.load text)

/-- The valid settings that the texts of the base file and of the overlay, the variables and the
address of the database give. -/
def understand (base : String) (overlay : Option (Format × String))
    (vars : List (String × String)) (databaseUrl : Option String) : Except Error Settings := do
  let base ← readable "unreadable base file" (Format.yaml.read? base)
  let overlay ← overlay.mapM fun (f, text) => readable "unreadable overlay" (f.read? text)
  let settings ← readable "unexpected value"
    (ofTable? (layered base overlay vars databaseUrl))
  settings.validate
  return settings

/-- Loads the settings of an environment from a directory. The base file has to exist; the overlay
may be missing. -/
def load {m : Type → Type} [Monad m] [Host m] (p : Surroundings) (directory environment : String) :
    m (Except Error Loaded) := do
  let basePath := basePath directory
  let overlayPath := overlayPath directory environment
  match p.file? basePath with
  | none => return .error (.fileNotFound basePath)
  | some base =>
    Host.report .debug "task_queue::config::loader" "Loading configuration sources"
      [("base", .shown basePath), ("overlay", .shown overlayPath),
        ("overlay_present", .bool (p.file? overlayPath).isSome)]
    match understand base (p.overlay? overlayPath) p.vars (p.lookup? "DATABASE_URL") with
    | .error e => return .error e
    | .ok settings =>
      Host.report .info "task_queue::config::loader" "Configuration loaded successfully"
        [("environment", .quoted environment), ("config_directory", .shown directory),
          ("task_types", .integer settings.taskTypes.length),
          ("batch_size", .integer settings.worker.batchSize)]
      return .ok ⟨settings, environment, directory⟩

end WorkQueue.Settings
