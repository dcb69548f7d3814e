import WorkQueue.Backend
import WorkQueue.Settings.Sections
import WorkQueue.Timestamp.Text

/-!
# The registry of task types

Task types are stored in the backend and cached in memory. Administrators register them; they are
also seeded from the settings when a queue connects.

## Main definitions

* `TypeCache`: the cached types
* `TypeRegistry.register`, `get`, `load`, `seed`: the operations of the registry
-/

namespace WorkQueue

/-- Cached task types, at most one of each name. -/
structure TypeCache where
  types : List TaskType := []
  deriving Inhabited

namespace TypeCache

def find? (c : TypeCache) (name : String) : Option TaskType :=
  c.types.find? fun type => type.name = name

/-- Caches a type in place of the one with the same name. -/
def insert (c : TypeCache) (type : TaskType) : TypeCache :=
  ⟨type :: c.types.filter fun old => old.name ≠ type.name⟩

/-- A cache that holds the given types; of several with one name the last. -/
def ofList (types : List TaskType) : TypeCache := types.foldl insert {}

def size (c : TypeCache) : Nat := c.types.length

/-- The cached names in ascending order. -/
def names (c : TypeCache) : List String :=
  (c.types.map (·.name)).mergeSort fun a b => decide (a ≤ b)

end TypeCache

namespace TypeRegistry

/-- Where the registry reports from. -/
def source : String := "task_queue::registry::task_type_registry"

variable {m : Type → Type} [Monad m] [Host m]

/-- Checks, stores and caches a task type. -/
def register (b : Backend m) (t : NewTaskType) : StateT TypeCache m (Outcome TaskType) := do
  match t.validate with
  | .error failure => return .error failure
  | .ok () =>
    match ← b.upsertType t with
    | .error failure => return .error failure
    | .ok stored =>
      StateT.lift <| Host.report .info source "Task type registered"
        [("task_type", .shown stored.name), ("max_attempts", .integer stored.maxAttempts),
          ("retry_backoff_seconds", .integer stored.retryBackoffSeconds)]
      modify (·.insert stored)
      return .ok stored

/-- The type with a name, from the cache or else from the backend. -/
def get (b : Backend m) (name : String) : StateT TypeCache m (Outcome TaskType) := do
  match (← MonadState.get).find? name with
  | some type => return .ok type
  | none =>
    match ← b.findType name with
    | .error failure => return .error failure
    | .ok none => return .error (.invalidTaskType name)
    | .ok (some type) =>
      modify (·.insert type)
      return .ok type

/-- Fills the cache anew from the backend, and counts the cached types. -/
def load (b : Backend m) : StateT TypeCache m (Outcome Nat) := do
  match ← b.listTypes with
  | .error failure => return .error failure
  | .ok types =>
    let cache := TypeCache.ofList types
    set cache
    StateT.lift <| Host.report .debug source "Task type cache refreshed"
      [("count", .integer cache.size)]
    return .ok cache.size

/-- Registers types one after the other, up to the first failure. -/
def registerAll (b : Backend m) :
    List NewTaskType → StateT TypeCache m (Outcome (List TaskType))
  | [] => return .ok []
  | t :: rest => do
    match ← register b t with
    | .error failure => return .error failure
    | .ok stored =>
      match ← registerAll b rest with
      | .error failure => return .error failure
      | .ok others => return .ok (stored :: others)

/-- Registers every entry of the settings. -/
def seed (b : Backend m) (entries : List Settings.TaskTypeEntry) :
    StateT TypeCache m (Outcome (List TaskType)) := do
  match ← registerAll b (entries.map (·.toNew)) with
  | .error failure => return .error failure
  | .ok stored =>
    let now ← (Host.now : m Timestamp)
    StateT.lift <| Host.report .info source "Task types seeded from configuration"
      [("count", .integer stored.length), ("seeded_at", .shown now.toOffsetText)]
    return .ok stored

end TypeRegistry

end WorkQueue
