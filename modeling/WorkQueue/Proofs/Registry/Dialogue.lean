import WorkQueue.TypeRegistry

/-!
# Dialogues of the registry

What the registry asks of its storage and of its cache, one request at a time, and how it goes on with
the answers. Loading empties the cache and then caches the types one by one. Held without interruption,
the dialogues are the operations of the registry; in between, other calls may use the storage and the
cache.

## Main definitions

* `TypeRegistry.Request`, `TypeRegistry.Asked`: what is asked, and with which answer
* `TypeRegistry.Dialogue`: the dialogues; `TypeRegistry.Call.dialogue` is the one of a call
* `TypeRegistry.Dialogue.Path`: the ways through a dialogue
* `TypeRegistry.Dialogue.interpret`: a dialogue held with a storage, without interruption

## Main statements

* `TypeRegistry.Call.interpret_dialogue`: a call is its dialogue, held with any storage
* `TypeRegistry.Call.caches_registered`: a call with a failed access has cached what it has registered
-/

namespace WorkQueue.TypeRegistry

/-- What the registry can ask. -/
inductive Request where
  | upsert (t : NewTaskType)
  | find (name : String)
  | list
  /-- The cached type with a name. -/
  | lookUp (name : String)
  /-- A type is to be cached. -/
  | cache (type : TaskType)
  | clear
  /-- How many types are cached. -/
  | size
  | now

/-- What the answer to a request is. -/
def Request.Answer : Request → Type
  | upsert _ => Outcome TaskType
  | find _ => Outcome (Option TaskType)
  | list => Outcome (List TaskType)
  | lookUp _ => Option TaskType
  | cache _ | clear => Unit
  | size => Nat
  | now => Timestamp

/-- The storage is asked, and not the cache or the clock. -/
def Request.isAccess : Request → Bool
  | upsert _ | find _ | list => true
  | lookUp _ | cache _ | clear | size | now => false

/-- A request with its answer. -/
structure Asked where
  request : Request
  answer : request.Answer

namespace Asked

/-- The type that the storage has registered. -/
def registered : Asked → List TaskType
  | ⟨.upsert _, .ok type⟩ => [type]
  | _ => []

/-- The type that was cached. -/
def cached : Asked → List TaskType
  | ⟨.cache type, _⟩ => [type]
  | _ => []

/-- The types that the storage has answered with. -/
def answered : Asked → List TaskType
  | ⟨.upsert _, .ok type⟩ => [type]
  | ⟨.find _, .ok (some type)⟩ => [type]
  | ⟨.list, .ok types⟩ => types
  | _ => []

/-- The storage has failed to answer. -/
def Fails : Asked → Prop
  | ⟨.upsert _, .error _⟩ | ⟨.find _, .error _⟩ | ⟨.list, .error _⟩ => True
  | _ => False

end Asked

/-- Requests one after the other, each of which may depend on the answers before it. -/
inductive Dialogue (α : Type) where
  | done (result : α)
  | ask (request : Request) (next : request.Answer → Dialogue α)
  | report (event : Telemetry.Event) (next : Dialogue α)

/-- An operation of the registry. -/
inductive Call where
  | register (t : NewTaskType)
  | get (name : String)
  | load
  | seed (entries : List Settings.TaskTypeEntry)

/-- What a call returns when it succeeds. -/
def Call.Result : Call → Type
  | register _ | get _ => TaskType
  | load => Nat
  | seed _ => List TaskType

namespace Dialogue

variable {α β : Type}

/-! ### The dialogues of calls -/

/-- Goes on with the result of a dialogue. -/
def andThen : Dialogue α → (α → Dialogue β) → Dialogue β
  | done a, f => f a
  | ask r next, f => ask r fun answer => (next answer).andThen f
  | report event next, f => report event (next.andThen f)

def register (t : NewTaskType) : Dialogue (Outcome TaskType) :=
  match t.validate with
  | .error failure => done (.error failure)
  | .ok () => ask (.upsert t) fun
    | .error failure => done (.error failure)
    | .ok stored =>
      report ⟨.info, source, "Task type registered",
        [("task_type", .shown stored.name), ("max_attempts", .integer stored.maxAttempts),
          ("retry_backoff_seconds", .integer stored.retryBackoffSeconds)]⟩
      (ask (.cache stored) fun _ => done (.ok stored))

def get (name : String) : Dialogue (Outcome TaskType) :=
  ask (.lookUp name) fun
  | some type => done (.ok type)
  | none => ask (.find name) fun
    | .error failure => done (.error failure)
    | .ok none => done (.error (.invalidTaskType name))
    | .ok (some type) => ask (.cache type) fun _ => done (.ok type)

/-- Caches types one by one. -/
def cacheAll (types : List TaskType) (next : Dialogue α) : Dialogue α :=
  types.foldr (fun type rest => ask (.cache type) fun _ => rest) next

def load : Dialogue (Outcome Nat) :=
  ask .list fun
  | .error failure => done (.error failure)
  | .ok types => ask .clear fun _ => cacheAll types <| ask .size fun (n : Nat) =>
    report ⟨.debug, source, "Task type cache refreshed", [("count", .integer n)]⟩
      (ask .size fun n => done (.ok n))

def registerAll : List NewTaskType → Dialogue (Outcome (List TaskType))
  | [] => done (.ok [])
  | t :: rest => (register t).andThen fun
    | .error failure => done (.error failure)
    | .ok stored => (registerAll rest).andThen fun
      | .error failure => done (.error failure)
      | .ok others => done (.ok (stored :: others))

def seed (entries : List Settings.TaskTypeEntry) : Dialogue (Outcome (List TaskType)) :=
  (registerAll (entries.map (·.toNew))).andThen fun
  | .error failure => done (.error failure)
  | .ok stored => ask .now fun now =>
    report ⟨.info, source, "Task types seeded from configuration",
      [("count", .integer stored.length), ("seeded_at", .shown now.toOffsetText)]⟩
      (done (.ok stored))

end Dialogue

/-- What a call asks. -/
def Call.dialogue : (call : Call) → Dialogue (Outcome call.Result)
  | register t => .register t
  | get name => .get name
  | load => .load
  | seed entries => .seed entries

/-- A call as an operation on a storage and a cache. -/
def Call.run {m : Type → Type} [Monad m] [Host m] (b : Backend m) :
    (call : Call) → StateT TypeCache m (Outcome call.Result)
  | register t => TypeRegistry.register b t
  | get name => TypeRegistry.get b name
  | load => TypeRegistry.load b
  | seed entries => TypeRegistry.seed b entries

/-! ### Dialogues held without interruption -/

theorem run_lift_bind {α β : Type} {m : Type → Type} [Monad m] [LawfulMonad m] (x : m β)
    (f : β → StateT TypeCache m α) (c : TypeCache) :
    (StateT.lift x >>= f).run c = x >>= fun a => (f a).run c :=
  (bind_assoc _ _ _).trans (bind_congr fun _ => pure_bind _ _)

section

variable {α β : Type} {m : Type → Type} [Monad m] [Host m] (b : Backend m)

/-- Answers a request, by a storage and the cache. -/
def Request.answeredBy : (r : Request) → StateT TypeCache m r.Answer
  | upsert t => StateT.lift (b.upsertType t)
  | find name => StateT.lift (b.findType name)
  | list => StateT.lift b.listTypes
  | lookUp name => return (← MonadState.get).find? name
  | cache type => modify (·.insert type)
  | clear => set ({} : TypeCache)
  | size => return (← MonadState.get).size
  | now => StateT.lift Host.now

namespace Dialogue

/-- Holds a dialogue with a storage. -/
def interpret : Dialogue α → StateT TypeCache m α
  | done a => pure a
  | ask r next => do
    let answer ← r.answeredBy b
    (next answer).interpret
  | report event next => do
    StateT.lift (Host.emit event)
    next.interpret

theorem interpret_register (t : NewTaskType) :
    (register t).interpret b = TypeRegistry.register b t := by
  rw [register, TypeRegistry.register]
  cases t.validate with
  | error failure => rfl
  | ok _ =>
    refine bind_congr fun answer => ?_
    cases answer with
    | error failure => rfl
    | ok stored => rfl

variable [LawfulMonad m]

theorem interpret_andThen (x : Dialogue α) (f : α → Dialogue β) :
    (x.andThen f).interpret b = x.interpret b >>= fun a => (f a).interpret b := by
  induction x with
  | done a => simp only [andThen, interpret, pure_bind]
  | ask r next ih => simp only [andThen, interpret, bind_assoc, ih]
  | report event next ih => simp only [andThen, interpret, bind_assoc, ih]

theorem interpret_get (name : String) : (get name).interpret b = TypeRegistry.get b name := by
  refine (bind_assoc _ _ _).trans (bind_congr fun c => (pure_bind _ _).trans ?_)
  cases c.find? name with
  | some type => rfl
  | none =>
    refine bind_congr fun answer => ?_
    match answer with
    | .error failure => rfl
    | .ok none => rfl
    | .ok (some type) => rfl

/-- Requests to the cache are answered at once. -/
theorem run_interpret_ask {r : Request} {next : r.Answer → Dialogue α} {c c' : TypeCache}
    {answer : r.Answer} (answered : (r.answeredBy b).run c = pure (answer, c')) :
    ((ask r next).interpret b).run c = ((next answer).interpret b).run c' := by
  have split : ((ask r next).interpret b).run c =
    (r.answeredBy b).run c >>= fun result => ((next result.1).interpret b).run result.2 := rfl
  rw [split, answered, pure_bind]

theorem run_answeredBy_size (c : TypeCache) :
    (Request.size.answeredBy b : StateT TypeCache m _).run c = pure (c.size, c) := pure_bind _ _

/-- Types that are cached one by one are all in the cache when the dialogue goes on. -/
theorem run_interpret_cacheAll (types : List TaskType) (next : Dialogue α) (c : TypeCache) :
    ((cacheAll types next).interpret b).run c =
      (next.interpret b).run (types.foldl TypeCache.insert c) := by
  induction types generalizing c with
  | nil => rfl
  | cons type types ih => exact (run_interpret_ask b rfl).trans (ih _)

theorem interpret_load : load.interpret b = TypeRegistry.load b := by
  rw [load, TypeRegistry.load]
  refine bind_congr fun answer => ?_
  cases answer with
  | error failure => rfl
  | ok types =>
    ext c
    refine (run_interpret_ask b rfl).trans ((run_interpret_cacheAll b types _ _).trans ?_)
    refine (run_interpret_ask b (run_answeredBy_size b _)).trans (Eq.trans ?_ (pure_bind _ _).symm)
    refine (run_lift_bind _ _ _).trans (Eq.trans ?_ (run_lift_bind _ _ _).symm)
    exact bind_congr fun _ => run_interpret_ask b (run_answeredBy_size b _)

theorem interpret_registerAll (ts : List NewTaskType) :
    (registerAll ts).interpret b = TypeRegistry.registerAll b ts := by
  induction ts with
  | nil => rfl
  | cons t ts ih =>
    rw [registerAll, TypeRegistry.registerAll, interpret_andThen, interpret_register]
    refine bind_congr fun answer => ?_
    cases answer with
    | error failure => rfl
    | ok stored =>
      simp only
      rw [interpret_andThen, ih]
      refine bind_congr fun answer => ?_
      cases answer with
      | error failure => rfl
      | ok others => rfl

theorem interpret_seed (entries : List Settings.TaskTypeEntry) :
    (seed entries).interpret b = TypeRegistry.seed b entries := by
  rw [seed, TypeRegistry.seed, interpret_andThen, interpret_registerAll]
  refine bind_congr fun answer => ?_
  cases answer with
  | error failure => rfl
  | ok stored => rfl

end Dialogue

/-- A call is its dialogue, held with any storage. -/
theorem Call.interpret_dialogue [LawfulMonad m] (call : Call) :
    call.dialogue.interpret b = call.run b := by
  cases call with
  | register t => exact Dialogue.interpret_register b t
  | get name => exact Dialogue.interpret_get b name
  | load => exact Dialogue.interpret_load b
  | seed entries => exact Dialogue.interpret_seed b entries

end

/-! ### Ways through a dialogue -/

namespace Dialogue

variable {α β : Type}

/-- This can be asked, with these answers, and yield this result. The answers are any. -/
def Path : Dialogue α → List Asked → α → Prop
  | done a, asked, result => asked = [] ∧ result = a
  | ask r next, asked, result =>
    ∃ answer rest, asked = ⟨r, answer⟩ :: rest ∧ (next answer).Path rest result
  | report _ next, asked, result => next.Path asked result

variable {x : Dialogue α} {f : α → Dialogue β} {asked : List Asked} {b : β}

theorem path_andThen : (x.andThen f).Path asked b ↔
    ∃ first a rest, asked = first ++ rest ∧ x.Path first a ∧ (f a).Path rest b := by
  induction x generalizing asked with
  | done a =>
    constructor
    · intro path
      exact ⟨[], a, asked, rfl, ⟨rfl, rfl⟩, path⟩
    · rintro ⟨_, _, rest, rfl, ⟨rfl, rfl⟩, path⟩
      exact path
  | ask r next ih =>
    constructor
    · rintro ⟨answer, rest, rfl, path⟩
      obtain ⟨first, a, rest, rfl, begun, continued⟩ := (ih answer).1 path
      exact ⟨⟨r, answer⟩ :: first, a, rest, rfl, ⟨answer, first, rfl, begun⟩, continued⟩
    · rintro ⟨_, a, rest, rfl, ⟨answer, first, rfl, begun⟩, continued⟩
      exact ⟨answer, first ++ rest, rfl, (ih answer).2 ⟨first, a, rest, rfl, begun, continued⟩⟩
  | report event next ih => exact ih

/-- What a call has cached is what it has registered, and it has not emptied the cache. -/
structure CachesRegistered (asked : List Asked) : Prop where
  cached_eq : asked.flatMap Asked.cached = asked.flatMap Asked.registered
  kept : ∀ x ∈ asked, x.request ≠ .clear

theorem cachesRegistered_nil : CachesRegistered [] := ⟨rfl, by simp⟩

theorem CachesRegistered.append {first rest : List Asked} (h : CachesRegistered first)
    (h' : CachesRegistered rest) : CachesRegistered (first ++ rest) where
  cached_eq := by rw [List.flatMap_append, List.flatMap_append, h.cached_eq, h'.cached_eq]
  kept := List.forall_mem_append.2 ⟨h.kept, h'.kept⟩

/-- A registration asks for nothing, or its access fails, or it caches what was registered. -/
theorem Path.register_cases {t : NewTaskType} {result : Outcome TaskType}
    (path : (register t).Path asked result) : asked = [] ∨
      (∃ failure, asked = [⟨.upsert t, .error failure⟩]) ∨
      ∃ stored, asked = [⟨.upsert t, .ok stored⟩, ⟨.cache stored, ()⟩] := by
  rw [register] at path
  cases validated : t.validate with
  | error failure =>
    rw [validated] at path
    exact .inl path.1
  | ok _ =>
    rw [validated] at path
    obtain ⟨answer, rest, rfl, path⟩ := path
    cases answer with
    | error failure =>
      obtain ⟨rfl, -⟩ := path
      exact .inr (.inl ⟨failure, rfl⟩)
    | ok stored =>
      obtain ⟨-, _, rfl, rfl, -⟩ := path
      exact .inr (.inr ⟨stored, rfl⟩)

theorem Path.cachesRegistered_register {t : NewTaskType} {result : Outcome TaskType}
    (path : (register t).Path asked result) : CachesRegistered asked := by
  rcases path.register_cases with rfl | ⟨failure, rfl⟩ | ⟨stored, rfl⟩
  · exact cachesRegistered_nil
  · exact ⟨rfl, by simp⟩
  · exact ⟨rfl, by simp⟩

theorem Path.cachesRegistered_registerAll {ts : List NewTaskType} {result : Outcome (List TaskType)}
    (path : (registerAll ts).Path asked result) : CachesRegistered asked := by
  induction ts generalizing asked result with
  | nil =>
    obtain ⟨rfl, -⟩ := path
    exact cachesRegistered_nil
  | cons t ts ih =>
    obtain ⟨first, outcome, rest, rfl, begun, path⟩ := path_andThen.1 path
    have first_registered := begun.cachesRegistered_register
    cases outcome with
    | error failure =>
      obtain ⟨rfl, -⟩ := path
      rwa [List.append_nil]
    | ok stored =>
      obtain ⟨second, outcome, rest, rfl, others, path⟩ := path_andThen.1 path
      have all := first_registered.append (ih others)
      cases outcome with
      | error failure | ok types =>
        obtain ⟨rfl, -⟩ := path
        rwa [List.append_nil]

theorem Path.cachesRegistered_seed {entries : List Settings.TaskTypeEntry}
    {result : Outcome (List TaskType)} (path : (seed entries).Path asked result) :
    CachesRegistered asked := by
  obtain ⟨first, outcome, rest, rfl, begun, path⟩ := path_andThen.1 path
  have registered := begun.cachesRegistered_registerAll
  cases outcome with
  | error failure =>
    obtain ⟨rfl, -⟩ := path
    rwa [List.append_nil]
  | ok stored =>
    obtain ⟨now, _, rfl, rfl, -⟩ := path
    exact registered.append ⟨rfl, by simp⟩

/-- The ways through a look-up. -/
theorem path_get {name : String} {result : Outcome TaskType} : (get name).Path asked result ↔
    (∃ type, asked = [⟨.lookUp name, some type⟩] ∧ result = .ok type) ∨
    (∃ failure, asked = [⟨.lookUp name, none⟩, ⟨.find name, .error failure⟩] ∧
      result = .error failure) ∨
    (asked = [⟨.lookUp name, none⟩, ⟨.find name, .ok none⟩] ∧
      result = .error (.invalidTaskType name)) ∨
    ∃ type, asked = [⟨.lookUp name, none⟩, ⟨.find name, .ok (some type)⟩, ⟨.cache type, ()⟩] ∧
      result = .ok type := by
  constructor
  · rintro ⟨found, rest, rfl, path⟩
    cases found with
    | some type =>
      obtain ⟨rfl, rfl⟩ := path
      exact .inl ⟨type, rfl, rfl⟩
    | none =>
      obtain ⟨answer, rest, rfl, path⟩ := path
      match answer with
      | .error failure =>
        obtain ⟨rfl, rfl⟩ := path
        exact .inr (.inl ⟨failure, rfl, rfl⟩)
      | .ok none =>
        obtain ⟨rfl, rfl⟩ := path
        exact .inr (.inr (.inl ⟨rfl, rfl⟩))
      | .ok (some type) =>
        obtain ⟨-, _, rfl, rfl, rfl⟩ := path
        exact .inr (.inr (.inr ⟨type, rfl, rfl⟩))
  · rintro (⟨type, rfl, rfl⟩ | ⟨failure, rfl, rfl⟩ | ⟨rfl, rfl⟩ | ⟨type, rfl, rfl⟩)
    · exact ⟨_, _, rfl, rfl, rfl⟩
    · exact ⟨_, _, rfl, _, _, rfl, rfl, rfl⟩
    · exact ⟨_, _, rfl, _, _, rfl, rfl, rfl⟩
    · exact ⟨_, _, rfl, _, _, rfl, _, _, rfl, rfl, rfl⟩

theorem path_cacheAll {types : List TaskType} {next : Dialogue α} {result : α} :
    (cacheAll types next).Path asked result ↔
      ∃ rest, asked = types.map (fun type => ⟨.cache type, ()⟩) ++ rest ∧ next.Path rest result := by
  induction types generalizing asked with
  | nil => simp [cacheAll]
  | cons type types ih =>
    constructor
    · rintro ⟨answer, rest, rfl, path⟩
      obtain ⟨others, rfl, continued⟩ := ih.1 path
      exact ⟨others, rfl, continued⟩
    · rintro ⟨rest, rfl, path⟩
      exact ⟨(), _, rfl, ih.2 ⟨rest, rfl, path⟩⟩

/-- A load whose access fails has asked for nothing else. -/
theorem Path.load_of_fails {result : Outcome Nat} (path : load.Path asked result)
    (fails : ∃ x ∈ asked, x.Fails) : ∃ failure, asked = [⟨.list, .error failure⟩] := by
  obtain ⟨answer, rest, rfl, path⟩ := path
  cases answer with
  | error failure =>
    obtain ⟨rfl, -⟩ := path
    exact ⟨failure, rfl⟩
  | ok types =>
    obtain ⟨cleared, rest, rfl, path⟩ := path
    obtain ⟨rest, rfl, n, _, rfl, n', _, rfl, rfl, -⟩ := path_cacheAll.1 path
    obtain ⟨x, mem, fails⟩ := fails
    have none_fails : ¬ x.Fails := by
      simp only [List.mem_cons, List.mem_append, List.mem_map, List.not_mem_nil, or_false] at mem
      rcases mem with rfl | rfl | ⟨type, -, rfl⟩ | rfl | rfl <;> exact id
    exact absurd fails none_fails

end Dialogue

variable {asked : List Asked}

/-- A call with a failed access has cached what it has registered before, and it has not emptied the
cache. Only a seed can have registered anything. -/
theorem Call.caches_registered {call : Call} {result : Outcome call.Result}
    (path : call.dialogue.Path asked result) (fails : ∃ x ∈ asked, x.Fails) :
    Dialogue.CachesRegistered asked ∧
      ((∀ entries, call ≠ .seed entries) → asked.flatMap Asked.cached = []) := by
  cases call with
  | register t =>
    refine ⟨path.cachesRegistered_register, fun _ => ?_⟩
    rcases path.register_cases with rfl | ⟨failure, rfl⟩ | ⟨stored, rfl⟩
    · rfl
    · rfl
    · obtain ⟨x, mem, fails⟩ := fails
      simp only [List.mem_cons, List.not_mem_nil, or_false] at mem
      rcases mem with rfl | rfl <;> exact absurd fails id
  | get name =>
    rcases Dialogue.path_get.1 path with
      ⟨type, rfl, -⟩ | ⟨failure, rfl, -⟩ | ⟨rfl, -⟩ | ⟨type, rfl, -⟩
    · exact ⟨⟨rfl, by simp⟩, fun _ => rfl⟩
    · exact ⟨⟨rfl, by simp⟩, fun _ => rfl⟩
    · exact ⟨⟨rfl, by simp⟩, fun _ => rfl⟩
    · obtain ⟨x, mem, fails⟩ := fails
      simp only [List.mem_cons, List.not_mem_nil, or_false] at mem
      rcases mem with rfl | rfl | rfl <;> exact absurd fails id
  | load =>
    obtain ⟨failure, rfl⟩ := Dialogue.Path.load_of_fails path fails
    exact ⟨⟨rfl, by simp⟩, fun _ => rfl⟩
  | seed entries =>
    exact ⟨path.cachesRegistered_seed, fun other => absurd rfl (other entries)⟩

/-- A look-up is refused only if its access fails, or the storage has answered that it knows no type of
the name. -/
theorem Call.get_refused {name : String} {failure : Failure}
    (path : (Call.get name).dialogue.Path asked (.error failure)) : (∃ x ∈ asked, x.Fails) ∨
      (failure = .invalidTaskType name ∧ (⟨.find name, .ok none⟩ : Asked) ∈ asked) := by
  rcases Dialogue.path_get.1 path with
    ⟨type, -, never⟩ | ⟨failure, rfl, -⟩ | ⟨rfl, refused⟩ | ⟨type, -, never⟩
  · cases never
  · exact .inl ⟨_, List.mem_cons_of_mem _ (List.mem_singleton_self _), trivial⟩
  · exact .inr ⟨Except.error.inj refused, List.mem_cons_of_mem _ (List.mem_singleton_self _)⟩
  · cases never

end WorkQueue.TypeRegistry
