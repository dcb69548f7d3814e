import WorkQueue.Proofs.Registry.Cached
import WorkQueue.Proofs.Registry.Dialogue

/-!
# Traffic between a registry and its storage

Calls of one registry run at the same time, and each request is one step. The registry is the only one
to write types. Other operations may use the storage in between, and any access to it may fail.

## Main definitions

* `TypeRegistry.Traffic`: the storage, the cache, and the calls in progress
* `TypeRegistry.Traffic.Step`, `TypeRegistry.Traffic.Steps`: steps of calls, in any order
* `TypeRegistry.Traffic.play`: a schedule of steps
* `TypeRegistry.held`: the type that the storage holds under a name, by what was observed
* `TypeRegistry.overtaken`: whether a registration has overtaken the call that cached a name last

## Main statements

* `TypeRegistry.Serves.findType?_eq`: what an answered request leaves in the storage
* `TypeRegistry.Serves.findType?_of_answered`: the storage answers with what it holds
* `TypeRegistry.Traffic.steps_play`: every schedule can be played
-/

namespace WorkQueue.TypeRegistry

open Memory (State)

/-! ### Calls in progress -/

/-- A call that has not returned. -/
structure Ongoing where
  call : Call
  /-- What is left of its dialogue. -/
  rest : Dialogue (Outcome call.Result)
  /-- What it has asked so far. -/
  asked : List Asked := []
  /-- The names that others have registered since its last access to the storage. -/
  passed : List String := []

namespace Ongoing

/-- The request of another call was answered. -/
def pass (x : Asked) (o : Ongoing) : Ongoing :=
  { o with passed := x.registered.map (·.name) ++ o.passed }

/-- Its own request was answered. -/
def goOn (o : Ongoing) {r : Request} (next : r.Answer → Dialogue (Outcome o.call.Result))
    (answer : r.Answer) : Ongoing :=
  { o with
    rest := next answer
    asked := o.asked ++ [⟨r, answer⟩]
    passed := if r.isAccess then [] else o.passed }

end Ongoing

/-- The storage, the cache of a registry, and its calls in progress. -/
structure Traffic where
  rows : State
  cache : TypeCache := {}
  calls : List Ongoing := []

/-- How a request is answered, with the rows and the cache before and after it. An access may fail; then
it changes nothing. -/
inductive Serves (s : State) (c : TypeCache) : (r : Request) → r.Answer → State → TypeCache → Prop where
  | upsert {t : NewTaskType} {now : Timestamp} {stored : TaskType} {s' : State}
      (accepted : (Memory.Update.upsertType t now).on s = (.ok stored, s')) :
      Serves s c (.upsert t) (.ok stored) s' c
  | find (name : String) : Serves s c (.find name) (.ok (s.findType? name)) s c
  | list : Serves s c .list (.ok s.listTypes) s c
  | upsertFails (t : NewTaskType) (failure : Failure) : Serves s c (.upsert t) (.error failure) s c
  | findFails (name : String) (failure : Failure) : Serves s c (.find name) (.error failure) s c
  | listFails (failure : Failure) : Serves s c .list (.error failure) s c
  | lookUp (name : String) : Serves s c (.lookUp name) (c.find? name) s c
  | cache (type : TaskType) : Serves s c (.cache type) () s (c.insert type)
  | clear : Serves s c .clear () s {}
  | size : Serves s c .size c.size s c
  | now (moment : Timestamp) : Serves s c .now moment s c

/-- What can be observed. -/
inductive Event where
  /-- A request was answered. Others had registered these names since the last access of its call. -/
  | asked (passed : List String) (x : Asked)
  /-- A call has returned, which has asked this. -/
  | returned (call : Call) (result : Outcome call.Result) (asked : List Asked)

namespace Traffic

/-- A step of one of the calls, or of something else that uses the storage. -/
inductive Step (w : Traffic) : List Event → Traffic → Prop where
  | call (call : Call) :
      Step w [] { w with calls := w.calls ++ [{ call, rest := call.dialogue }] }
  | ask {before after : List Ongoing} {o : Ongoing} {r : Request}
      {next : r.Answer → Dialogue (Outcome o.call.Result)} {answer : r.Answer} {rows : State}
      {cache : TypeCache} (here : w.calls = before ++ o :: after) (rest : o.rest = .ask r next)
      (served : Serves w.rows w.cache r answer rows cache) :
      Step w [.asked o.passed ⟨r, answer⟩]
        ⟨rows, cache,
          before.map (.pass ⟨r, answer⟩) ++ o.goOn next answer :: after.map (.pass ⟨r, answer⟩)⟩
  | report {before after : List Ongoing} {o : Ongoing} {event : Telemetry.Event}
      {next : Dialogue (Outcome o.call.Result)} (here : w.calls = before ++ o :: after)
      (rest : o.rest = .report event next) :
      Step w [] { w with calls := before ++ { o with rest := next } :: after }
  | return_ {before after : List Ongoing} {o : Ongoing} {result : Outcome o.call.Result}
      (here : w.calls = before ++ o :: after) (rest : o.rest = .done result) :
      Step w [.returned o.call result o.asked] { w with calls := before ++ after }
  /-- Another operation leaves the types as they are. -/
  | elsewhere {rows : State} (types : rows.types = w.rows.types) : Step w [] { w with rows }

/-- Any number of steps, with all that was observed. -/
inductive Steps (start : Traffic) : List Event → Traffic → Prop where
  | nil : Steps start [] start
  | snoc {history events : List Event} {w w' : Traffic} (first : Steps start history w)
      (next : Step w events w') : Steps start (history ++ events) w'

end Traffic

/-! ### Histories -/

/-- The type that was registered. -/
def Event.registered : Event → List TaskType
  | asked _ x => x.registered
  | returned .. => []

/-- The types registered under a name, in order. -/
def registrations (history : List Event) (name : String) : List TaskType :=
  (history.flatMap Event.registered).filter fun type => type.name = name

/-- The type that the storage holds under a name: the last one registered, or the one from before. -/
def held (start : State) (history : List Event) (name : String) : Option TaskType :=
  (registrations history name).getLast?.or (start.findType? name)

/-- The storage has answered with a type, and held it then. -/
def WasHeld (start : State) (history : List Event) (type : TaskType) : Prop :=
  ∃ earlier passed x later, history = earlier ++ .asked passed x :: later ∧ type ∈ x.answered ∧
    held start (earlier ++ [.asked passed x]) type.name = some type

/-- Whether an event has cached a name late: others had registered it since the access. -/
def Event.overtakes (name : String) (before : Bool) : Event → Bool
  | asked passed ⟨.cache type, _⟩ =>
    if type.name = name then decide (name ∈ passed) else before
  | asked _ ⟨.clear, _⟩ => false
  | _ => before

/-- A registration has overtaken the call that cached a name last, after its access to the storage. -/
def overtaken (name : String) (history : List Event) : Bool :=
  history.foldl (Event.overtakes name) false

variable {start s s' : State} {c c' : TypeCache} {history events : List Event} {e : Event}
  {name : String} {type : TaskType} {x : Asked} {o : Ongoing} {w w' : Traffic}

theorem overtaken_concat (name : String) (history : List Event) (e : Event) :
    overtaken name (history ++ [e]) = e.overtakes name (overtaken name history) := by
  rw [overtaken, List.foldl_append]
  rfl

theorem registrations_concat (history : List Event) (e : Event) (name : String) :
    registrations (history ++ [e]) name =
      registrations history name ++ e.registered.filter fun type => type.name = name := by
  simp [registrations]

theorem held_concat_asked (start : State) (history : List Event) (passed : List String) (x : Asked)
    (name : String) : held start (history ++ [.asked passed x]) name =
      (x.registered.filter fun type => type.name = name).getLast?.or (held start history name) := by
  rw [held, registrations_concat, List.getLast?_append, Option.or_assoc]
  rfl

theorem held_concat_returned (start : State) (history : List Event) (call : Call)
    (result : Outcome call.Result) (asked : List Asked) (name : String) :
    held start (history ++ [.returned call result asked]) name = held start history name := by
  rw [held, registrations_concat, Event.registered, List.filter_nil, List.append_nil]
  rfl

/-- No type is held only if none was registered, and there was none before. -/
theorem held_eq_none_iff :
    held start history name = none ↔ start.findType? name = none ∧ registrations history name = [] := by
  rw [held, Option.or_eq_none_iff, List.getLast?_eq_none_iff, and_comm]

theorem WasHeld.append (h : WasHeld start history type) (events : List Event) :
    WasHeld start (history ++ events) type := by
  obtain ⟨earlier, passed, x, later, rfl, answered, stored⟩ := h
  exact ⟨earlier, passed, x, later ++ events, by simp, answered, stored⟩

/-- An event in a history that has grown by one is the last one, or was there before. -/
theorem split_concat {earlier later : List Event} {y : Event}
    (h : history ++ [e] = earlier ++ y :: later) : (earlier = history ∧ y = e) ∨
      ∃ later', history = earlier ++ y :: later' := by
  rcases List.eq_nil_or_concat later with rfl | ⟨rest, last, rfl⟩
  · obtain ⟨rfl, one⟩ := List.append_inj' h rfl
    exact .inl ⟨rfl, (List.singleton_inj.1 one).symm⟩
  · rw [List.concat_eq_append, ← List.cons_append, ← List.append_assoc] at h
    exact .inr ⟨rest, (List.append_inj' h rfl).1⟩

/-! ### How requests are answered -/

namespace Serves

variable {r : Request} {answer : r.Answer} (served : Serves s c r answer s' c')
include served

theorem keyed (hs : s.TypesKeyed) : s'.TypesKeyed := by
  cases served with
  | upsert accepted =>
    obtain ⟨-, rfl⟩ := State.eq_of_on_upsertType_eq_ok accepted
    exact hs.putType
  | _ => exact hs

/-- A name finds the type that was registered, or what it found before. -/
theorem findType?_eq (name : String) : s'.findType? name =
    ((Asked.registered ⟨r, answer⟩).filter fun type => type.name = name).getLast?.or
      (s.findType? name) := by
  cases served with
  | @upsert t now stored _ accepted =>
    obtain ⟨-, rfl⟩ := State.eq_of_on_upsertType_eq_ok accepted
    rw [State.findType?_putType, Asked.registered]
    by_cases same : stored.name = name
    · simp [same]
    · simp [same, Ne.symm same]
  | _ => rfl

/-- What the storage has answered with is what it holds. -/
theorem findType?_of_answered (hs : s.TypesKeyed) (h : type ∈ Asked.answered ⟨r, answer⟩) :
    s'.findType? type.name = some type := by
  cases served with
  | upsert accepted =>
    obtain ⟨-, rfl⟩ := State.eq_of_on_upsertType_eq_ok accepted
    rw [List.mem_singleton.1 h, State.findType?_putType, if_pos rfl]
  | find name =>
    cases found : s.findType? name with
    | none =>
      rw [found] at h
      cases h
    | some stored =>
      rw [found] at h
      obtain rfl := List.mem_singleton.1 h
      obtain ⟨-, rfl⟩ := (State.findType?_eq_some_iff hs).1 found
      exact found
  | list => exact (State.findType?_eq_some_iff hs).2 ⟨s.perm_listTypes.mem_iff.1 h, rfl⟩
  | _ => cases h

end Serves

/-! ### Schedules -/

/-- Answers a request at an instant. With a failure, accesses to the storage fail. -/
def Request.serve (s : State) (c : TypeCache) (moment : Timestamp) (failure : Option Failure) :
    (r : Request) → r.Answer × State × TypeCache
  | upsert t =>
    match failure with
    | some failure => (.error failure, s, c)
    | none =>
      let (stored, s') := (Memory.Update.upsertType t moment).on s
      (stored, s', c)
  | find name =>
    match failure with
    | some failure => (.error failure, s, c)
    | none => (.ok (s.findType? name), s, c)
  | list =>
    match failure with
    | some failure => (.error failure, s, c)
    | none => (.ok s.listTypes, s, c)
  | lookUp name => (c.find? name, s, c)
  | cache type => ((), s, c.insert type)
  | clear => ((), s, {})
  | size => (c.size, s, c)
  | now => (moment, s, c)

theorem serves_serve (s : State) (c : TypeCache) (moment : Timestamp) (failure : Option Failure)
    (r : Request) : Serves s c r (r.serve s c moment failure).1 (r.serve s c moment failure).2.1
      (r.serve s c moment failure).2.2 := by
  cases r with
  | upsert t =>
    cases failure with
    | some failure => exact .upsertFails t failure
    | none =>
      simp only [Request.serve]
      rcases Memory.Update.allOrNothing_upsertType.ok_or_kept s with
        ⟨stored, s', accepted⟩ | ⟨failure, refused⟩
      · rw [accepted]
        exact .upsert accepted
      · rw [refused]
        exact .upsertFails t failure
  | find name =>
    cases failure with
    | some failure => exact .findFails name failure
    | none => exact .find name
  | list =>
    cases failure with
    | some failure => exact .listFails failure
    | none => exact .list
  | lookUp name => exact .lookUp name
  | cache type => exact .cache type
  | clear => exact .clear
  | size => exact .size
  | now => exact .now moment

/-- What is done next. -/
inductive Move where
  | call (call : Call)
  /-- The next step of the call in this place. -/
  | turn (place : Nat) (failure : Option Failure := none)

namespace Traffic

/-- A call does its next step. -/
def advance (moment : Timestamp) (failure : Option Failure) (w : Traffic) (before : List Ongoing)
    (o : Ongoing) (after : List Ongoing) : List Event × Traffic :=
  match o.rest with
  | .ask r next =>
    let (answer, rows, cache) := r.serve w.rows w.cache moment failure
    ([.asked o.passed ⟨r, answer⟩], ⟨rows, cache,
      before.map (.pass ⟨r, answer⟩) ++ o.goOn next answer :: after.map (.pass ⟨r, answer⟩)⟩)
  | .report _ next => ([], { w with calls := before ++ { o with rest := next } :: after })
  | .done result => ([.returned o.call result o.asked], { w with calls := before ++ after })

/-- Does a move; nothing is done in a place with no call. -/
def move (moment : Timestamp) (w : Traffic) : Move → List Event × Traffic
  | .call call => ([], { w with calls := w.calls ++ [{ call, rest := call.dialogue }] })
  | .turn place failure =>
    match w.calls.drop place with
    | [] => ([], w)
    | o :: after => w.advance moment failure (w.calls.take place) o after

/-- Does moves one after the other, and adds what is observed to the history. -/
def play (moment : Timestamp) (moves : List Move) (played : List Event × Traffic) :
    List Event × Traffic :=
  moves.foldl (fun played next =>
    let (events, w) := played.2.move moment next
    (played.1 ++ events, w)) played

theorem step_advance (moment : Timestamp) (failure : Option Failure) {w : Traffic}
    {before after : List Ongoing} {o : Ongoing} (here : w.calls = before ++ o :: after) :
    w.Step (w.advance moment failure before o after).1 (w.advance moment failure before o after).2 := by
  rw [advance]
  cases rest : o.rest with
  | ask r next => exact .ask here rest (serves_serve w.rows w.cache moment failure r)
  | report event next => exact .report here rest
  | done result => exact .return_ here rest

theorem step_move (moment : Timestamp) (w : Traffic) (next : Move) :
    w.Step (w.move moment next).1 (w.move moment next).2 := by
  cases next with
  | call call => exact .call call
  | turn place failure =>
    rw [move]
    cases rest : w.calls.drop place with
    | nil => exact .elsewhere rfl
    | cons o after =>
      refine step_advance moment failure ?_
      rw [← rest, List.take_append_drop]

/-- Every schedule can be played. -/
theorem steps_play (moment : Timestamp) (moves : List Move) {start w : Traffic}
    {history : List Event} (steps : Steps start history w) :
    Steps start (play moment moves (history, w)).1 (play moment moves (history, w)).2 := by
  induction moves generalizing history w with
  | nil => exact steps
  | cons next moves ih => exact ih (steps.snoc (step_move moment w next))

end Traffic

end WorkQueue.TypeRegistry
