import WorkQueue.Proofs.Registry.Dialogue

/-!
# What the registry is about to cache

A call has types pending: those that it caches before it asks anything else. All of them are in the last
answer of the storage, and a type that was registered is among them. So between a registration and the
next access of its call the type is cached, and nothing else is cached that the storage has not just
answered with.

## Main definitions

* `TypeRegistry.Dialogue.pending`: the types that will be cached before anything else is asked
* `TypeRegistry.Dialogue.Honest`: only what the storage has just answered is cached

## Main statements

* `TypeRegistry.Call.quiet_dialogue`: every call is honest, and has nothing pending when it begins
-/

namespace WorkQueue.TypeRegistry

/-- The request changes the cache. -/
def Request.isWrite : Request → Bool
  | cache _ | clear => true
  | upsert _ | find _ | list | lookUp _ | size | now => false

namespace Dialogue

variable {α β : Type}

/-- The types that are cached before anything else is asked. -/
def pending : Dialogue α → List TaskType
  | done _ => []
  | ask (.cache type) next => type :: (next ()).pending
  | ask .clear next => (next ()).pending
  | ask _ _ => []
  | report _ next => next.pending

/-- Only types are cached that the storage has just answered with, and what it has registered is. -/
def Honest : Dialogue α → Prop
  | done _ => True
  | ask r next => ∀ answer, (next answer).Honest ∧
      (r.isWrite = false → (next answer).pending ⊆ Asked.answered ⟨r, answer⟩) ∧
      Asked.registered ⟨r, answer⟩ ⊆ (next answer).pending
  | report _ next => next.Honest

/-- An honest dialogue that caches nothing before it has asked something else. -/
structure Quiet (x : Dialogue α) : Prop where
  honest : x.Honest
  still : x.pending = []

variable {x : Dialogue α} {f : α → Dialogue β} {r : Request} {next : r.Answer → Dialogue α}

theorem pending_ask_of_not_isWrite (h : r.isWrite = false) : (ask r next).pending = [] := by
  cases r with
  | cache type => cases h
  | clear => cases h
  | _ => rfl

theorem pending_subset_ask (h : r.isWrite = true) (answer : r.Answer) :
    (next answer).pending ⊆ (ask r next).pending := by
  cases r with
  | cache type => exact List.subset_cons_self _ _
  | clear => exact List.Subset.refl _
  | _ => cases h

theorem pending_andThen (still : ∀ a, (f a).pending = []) :
    (x.andThen f).pending = x.pending := by
  induction x with
  | done a => exact still a
  | ask r next ih =>
    cases r with
    | cache type => exact congrArg (type :: ·) (ih ())
    | clear => exact ih ()
    | _ => rfl
  | report event next ih => exact ih

theorem Honest.andThen (h : x.Honest) (quiet : ∀ a, (f a).Quiet) : (x.andThen f).Honest := by
  induction x with
  | done a => exact (quiet a).honest
  | ask r next ih =>
    intro answer
    obtain ⟨rest, answered, registered⟩ := h answer
    refine ⟨ih answer rest, ?_, ?_⟩
    · rwa [pending_andThen fun a => (quiet a).still]
    · rwa [pending_andThen fun a => (quiet a).still]
  | report event next ih => exact ih h

theorem Quiet.andThen (h : x.Quiet) (quiet : ∀ a, (f a).Quiet) : (x.andThen f).Quiet where
  honest := h.honest.andThen quiet
  still := (pending_andThen fun a => (quiet a).still).trans h.still

theorem quiet_done (a : α) : (done a).Quiet := ⟨trivial, rfl⟩

/-- What follows an answer may be quiet unless a type was registered. -/
theorem Quiet.follows (h : x.Quiet) (r : Request) (answer : r.Answer)
    (none : Asked.registered ⟨r, answer⟩ = []) : x.Honest ∧
      (r.isWrite = false → x.pending ⊆ Asked.answered ⟨r, answer⟩) ∧
      Asked.registered ⟨r, answer⟩ ⊆ x.pending := by
  rw [h.still, none]
  exact ⟨h.honest, fun _ => List.nil_subset _, List.nil_subset _⟩

/-- A request that writes nothing, and after which nothing needs to be cached. -/
theorem Quiet.ask (reads : r.isWrite = false)
    (none : ∀ answer, Asked.registered ⟨r, answer⟩ = []) (quiet : ∀ answer, (next answer).Quiet) :
    (ask r next).Quiet where
  honest answer := (quiet answer).follows r answer (none answer)
  still := pending_ask_of_not_isWrite reads

theorem Quiet.report (h : x.Quiet) (event : Telemetry.Event) : (report event x).Quiet :=
  ⟨h.honest, h.still⟩

theorem Honest.cache (h : x.Honest) (type : TaskType) : (ask (.cache type) fun _ => x).Honest :=
  fun _ => ⟨h, nofun, List.nil_subset _⟩

theorem Honest.cacheAll (h : x.Honest) (types : List TaskType) : (cacheAll types x).Honest := by
  induction types with
  | nil => exact h
  | cons type types ih => exact ih.cache type

theorem pending_cacheAll (types : List TaskType) (x : Dialogue α) :
    (cacheAll types x).pending = types ++ x.pending := by
  induction types with
  | nil => rfl
  | cons type types ih => exact congrArg (type :: ·) ih

/-! ### The dialogues of calls are honest -/

theorem quiet_register (t : NewTaskType) : (register t).Quiet := by
  rw [register]
  cases t.validate with
  | error failure => exact quiet_done _
  | ok _ =>
    refine ⟨fun answer => ?_, rfl⟩
    cases answer with
    | error failure => exact (quiet_done _).follows (.upsert t) (.error failure) rfl
    | ok stored =>
      exact ⟨(quiet_done _).honest.cache stored, fun _ => List.Subset.refl _, List.Subset.refl _⟩

theorem quiet_get (name : String) : (get name).Quiet := by
  refine Quiet.ask rfl (fun _ => rfl) fun found => ?_
  cases found with
  | some type => exact quiet_done _
  | none =>
    constructor
    · intro answer
      match answer with
      | .error failure => exact (quiet_done _).follows (.find name) (.error failure) rfl
      | .ok none => exact (quiet_done _).follows (.find name) (.ok none) rfl
      | .ok (some type) =>
        exact ⟨(quiet_done _).honest.cache type, fun _ => List.Subset.refl _, List.nil_subset _⟩
    · rfl

theorem quiet_load : load.Quiet := by
  refine ⟨fun answer => ?_, rfl⟩
  cases answer with
  | error failure => exact (quiet_done _).follows .list (.error failure) rfl
  | ok types =>
    -- the cache is filled anew with all that was answered, and then only counted
    have counted : Quiet (ask .size fun (n : Nat) =>
        report ⟨.debug, source, "Task type cache refreshed", [("count", .integer n)]⟩
          (ask .size fun n => done (.ok n : Outcome Nat))) :=
      .ask rfl (fun _ => rfl) fun n => .report (.ask rfl (fun _ => rfl) fun n => quiet_done _) _
    refine ⟨fun _ => ⟨counted.honest.cacheAll types, nofun, List.nil_subset _⟩, fun _ => ?_,
      List.nil_subset _⟩
    rw [pending, pending_cacheAll, counted.still, List.append_nil]
    exact List.Subset.refl _

theorem quiet_registerAll (ts : List NewTaskType) : (registerAll ts).Quiet := by
  induction ts with
  | nil => exact quiet_done _
  | cons t ts ih =>
    refine (quiet_register t).andThen fun outcome => ?_
    cases outcome with
    | error failure => exact quiet_done _
    | ok stored =>
      refine ih.andThen fun outcome => ?_
      cases outcome with
      | error failure => exact quiet_done _
      | ok others => exact quiet_done _

theorem quiet_seed (entries : List Settings.TaskTypeEntry) : (seed entries).Quiet := by
  refine (quiet_registerAll _).andThen fun outcome => ?_
  cases outcome with
  | error failure => exact quiet_done _
  | ok stored => exact .ask rfl (fun _ => rfl) fun moment => .report (quiet_done _) _

end Dialogue

/-- Every call is honest, and begins by asking. -/
theorem Call.quiet_dialogue (call : Call) : call.dialogue.Quiet := by
  cases call with
  | register t => exact Dialogue.quiet_register t
  | get name => exact Dialogue.quiet_get name
  | load => exact Dialogue.quiet_load
  | seed entries => exact Dialogue.quiet_seed entries

end WorkQueue.TypeRegistry
