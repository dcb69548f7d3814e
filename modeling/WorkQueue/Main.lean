import Std.Time.DateTime.Timestamp
import WorkQueue.CommandLine.Program

/-!
# The command of operators

Runs the program in a process: its words, variables and files come from the system, events and
output go to the standard streams. There is no client for a database here, so that commands which
need one end with a failure.

## Main definitions

* `Process`: actions of the process, with a place for events
* `main`: the command
-/

namespace WorkQueue

namespace Process

/-- The variables in the list that the system keeps of a process. -/
def variablesOf (environment : String) : List (String × String) :=
  (environment.splitOn "\x00").filterMap fun entry =>
    match entry.splitOn "=" with
    | name :: value :: rest => some (name, "=".intercalate (value :: rest))
    | _ => none

/-- The random identifier made of the lowest bits of a number, with the marks of its kind. -/
def randomId (n : Nat) : Uuid :=
  let high := (n >>> 80) % 0x1000000000000
  let middle := (n >>> 64) % 0x1000
  let low := n % 0x4000000000000000
  .ofNat ((high <<< 80) + (4 <<< 76) + (middle <<< 64) + (2 <<< 62) + low)

/-- The actions of the process; events go to the given place. -/
abbrev Action := ReaderT (Telemetry.Event → IO Unit) IO

instance : Host Action where
  now := do
    let nanos := (← Std.Time.Timestamp.now).toNanosecondsSinceUnixEpoch.val
    return (Timestamp.ofParts? (nanos / 1000000000) (nanos % 1000000000).toNat).getD .epoch
  freshId := do
    let bytes ← IO.getRandomBytes 16
    return randomId (bytes.toList.foldl (fun n b => n * 256 + b.toNat) 0)
  emit event := do (← read) event

/-- Every request to the database fails. -/
def noDatabase : Database.Session.Executor Action where
  run _ := return .error .unreachable
  command _ := return .error .unreachable
  ledger := return .error .unreachable

/-- The text of a file, if it can be read. -/
def readFile? (path : String) : IO (Option String) := do
  try
    return some (← IO.FS.readFile path)
  catch _ =>
    return none

/-- The surroundings of the process, with the files of settings that the words ask for. -/
def surroundings (words : List String) : IO Settings.Surroundings := do
  let vars := variablesOf ((← readFile? "/proc/self/environ").getD "")
  let bare : Settings.Surroundings := { file? := fun _ => none, vars := vars }
  match CommandLine.read bare.lookup? words with
  | .run i =>
    let directory := i.directory.getD bare.directory
    let environment := i.environment.getD bare.environment
    let overlay := Settings.overlayPath directory environment
    let paths := Settings.basePath directory :: overlay ::
      (Settings.extendedPaths overlay).map (·.2)
    let files ← paths.mapM fun path => do return (path, ← readFile? path)
    return { bare with file? := fun path => (files.find? fun f => f.1 = path).bind (·.2) }
  | _ => return bare

/-- Writes an event to the standard output, if its level is written. -/
def writeEvent (p : Settings.Surroundings) (e : Telemetry.Event) : IO Unit := do
  for e in CommandLine.logged p.environment [e] do
    match CommandLine.LogFormat.choose p with
    | .pretty => do
      let (first, rest) := e.lines
      (first :: rest).forM IO.println
    | .json => IO.println (CommandLine.logRecord e).render

end Process

end WorkQueue

open WorkQueue in
/-- Runs the program on the words after its name. -/
def main (words : List String) : IO UInt32 := do
  let p ← Process.surroundings words
  let action := (CommandLine.program p 1 words).interpret Process.noDatabase
  let exit ← action.run (Process.writeEvent p)
  IO.print exit.out
  IO.eprint exit.err
  return exit.code.toUInt32
