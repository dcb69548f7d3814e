import WorkQueue.Proofs.Registry.Pending
import WorkQueue.Proofs.Registry.Seeding
import WorkQueue.Proofs.Registry.Traffic

/-!
# Crossing calls of the registry

A type is cached some time after the storage has answered with it; until then another call may register
the name anew, and cache what it has registered. So a cached type is one that the storage has held, and
it is the current one unless a registration has overtaken the call that cached it.

The invariant speaks of the types that a call has pending. A pending type is the current one as long as
no other call has registered its name, and while a registered type is pending the cache may be behind.

## Main definitions

* `TypeRegistry.Ongoing.Sound`, `TypeRegistry.Traffic.Sound`: the invariant
* `TypeRegistry.Traffic.Kept`: what is promised of the cache

## Main statements

* `TypeRegistry.Traffic.Sound.step`, `TypeRegistry.Traffic.Steps.sound`: what steps preserve
* `TypeRegistry.Traffic.cache_kept`: the promise is kept
* `TypeRegistry.Traffic.cache_overtaken`: more cannot be promised
-/

namespace WorkQueue.TypeRegistry

open Memory (State)

variable {start s s' : State} {c c' : TypeCache} {history : List Event} {e : Event}
  {name : String} {type : TaskType} {x : Asked} {o : Ongoing} {w w' : Traffic} {r : Request}
  {answer : r.Answer}

/-! ### What an answer changes -/

theorem Ongoing.passed_goOn_of_isWrite {next : r.Answer → Dialogue (Outcome o.call.Result)}
    (written : r.isWrite = true) : (o.goOn next answer).passed = o.passed := by
  cases r with
  | cache type => rfl
  | clear => rfl
  | _ => cases written

theorem Serves.rows_eq_of_isWrite (served : Serves s c r answer s' c') (written : r.isWrite = true) :
    s' = s := by
  cases served with
  | cache type => rfl
  | clear => rfl
  | _ => cases written

theorem Serves.cache_eq_of_not_isWrite (served : Serves s c r answer s' c')
    (unwritten : r.isWrite = false) : c' = c := by
  cases served with
  | cache type => cases unwritten
  | clear => cases unwritten
  | _ => rfl

/-- What the cache finds it has found before, or it has just been cached. -/
theorem Serves.find?_cases (served : Serves s c r answer s' c') (cached : c'.find? name = some type) :
    c.find? name = some type ∨ r = .cache type := by
  cases served with
  | cache stored =>
    rw [TypeCache.find?_insert] at cached
    split at cached
    · exact .inr (congrArg Request.cache (Option.some.inj cached))
    · exact .inl cached
  | clear => cases cached
  | _ => exact .inl cached

theorem Serves.findType?_of_find {found : Option TaskType}
    (served : Serves s c (.find name) (.ok found) s' c') : s.findType? name = found := by
  cases served
  rfl

theorem Event.overtakes_cache (name : String) (before : Bool) (passed : List String)
    (type : TaskType) : (asked passed ⟨.cache type, ()⟩).overtakes name before =
      if type.name = name then decide (name ∈ passed) else before := rfl

theorem Event.overtakes_of_not_isWrite (unwritten : r.isWrite = false) (name : String)
    (before : Bool) (passed : List String) (answer : r.Answer) :
    (asked passed ⟨r, answer⟩).overtakes name before = before := by
  cases r with
  | cache type => cases unwritten
  | clear => cases unwritten
  | _ => rfl

/-! ### The invariant -/

/-- The answer was observed. -/
def Observed (history : List Event) (x : Asked) : Prop :=
  ∃ earlier passed later, history = earlier ++ .asked passed x :: later

theorem Observed.append (h : Observed history x) (events : List Event) :
    Observed (history ++ events) x := by
  obtain ⟨earlier, passed, later, rfl⟩ := h
  exact ⟨earlier, passed, later ++ events, by simp⟩

/-- Some call has a type of the name pending. -/
def IsPending (calls : List Ongoing) (name : String) : Prop :=
  ∃ o ∈ calls, ∃ type ∈ o.rest.pending, type.name = name

/-- What holds of a call in progress. -/
structure Ongoing.Sound (start rows : State) (history : List Event) (o : Ongoing) : Prop where
  /-- What it has asked is a way through its dialogue, however it goes on. -/
  path : ∀ asked result, o.rest.Path asked result → o.call.dialogue.Path (o.asked ++ asked) result
  observed : ∀ x ∈ o.asked, Observed history x
  honest : o.rest.Honest
  wasHeld : ∀ type ∈ o.rest.pending, WasHeld start history type
  /-- A pending type is the current one unless others have registered its name. -/
  fresh : ∀ type ∈ o.rest.pending, type.name ∉ o.passed → rows.findType? type.name = some type

/-- What holds of the storage, the cache and the calls in progress. -/
structure Traffic.Sound (start : State) (history : List Event) (w : Traffic) : Prop where
  keyed : w.rows.TypesKeyed
  stored : ∀ name, w.rows.findType? name = held start history name
  calls : ∀ o ∈ w.calls, o.Sound start w.rows history
  wasHeld : ∀ name type, w.cache.find? name = some type → WasHeld start history type
  /-- A cached type is the current one, unless the call that cached it was overtaken or some call has
  the name pending. -/
  current : ∀ name type, w.cache.find? name = some type → overtaken name history = false →
    w.rows.findType? name = some type ∨ IsPending w.calls name
  unknown : ∀ earlier passed name later,
    history = earlier ++ .asked passed ⟨.find name, .ok none⟩ :: later →
      held start earlier name = none
  returned : ∀ call result asked, .returned call result asked ∈ history →
    call.dialogue.Path asked result ∧ ∀ x ∈ asked, Observed history x

namespace Ongoing.Sound

/-- A call begins with nothing asked and nothing pending. -/
theorem init (start rows : State) (history : List Event) (call : Call) :
    Ongoing.Sound start rows history { call, rest := call.dialogue } where
  path _ _ path := path
  observed _ mem := by cases mem
  honest := call.quiet_dialogue.honest
  wasHeld type mem := by
    rw [call.quiet_dialogue.still] at mem
    cases mem
  fresh type mem := by
    rw [call.quiet_dialogue.still] at mem
    cases mem

theorem report (h : o.Sound start s history) {event : Telemetry.Event}
    {next : Dialogue (Outcome o.call.Result)} (rest : o.rest = .report event next) :
    Ongoing.Sound start s history { o with rest := next } where
  path asked result path := h.path asked result (by rw [rest]; exact path)
  observed := h.observed
  honest := by
    have honest := h.honest
    rwa [rest] at honest
  wasHeld type mem := h.wasHeld type (by rw [rest]; exact mem)
  fresh type mem := h.fresh type (by rw [rest]; exact mem)

theorem append (h : o.Sound start s history) (events : List Event) :
    o.Sound start s (history ++ events) where
  path := h.path
  observed x mem := (h.observed x mem).append events
  honest := h.honest
  wasHeld type mem := (h.wasHeld type mem).append events
  fresh := h.fresh

/-- Answers to others keep it: only the names that they register are no longer current. -/
theorem pass (h : o.Sound start s history) (served : Serves s c r answer s' c') :
    (o.pass ⟨r, answer⟩).Sound start s' history where
  path := h.path
  observed := h.observed
  honest := h.honest
  wasHeld := h.wasHeld
  fresh type mem unpassed := by
    have unregistered : ∀ other ∈ Asked.registered ⟨r, answer⟩, other.name ≠ type.name := by
      intro other registered same
      refine unpassed (List.mem_append_left _ ?_)
      exact List.mem_map.2 ⟨other, registered, same⟩
    have none_registered : (Asked.registered ⟨r, answer⟩).filter (fun other =>
        other.name = type.name) = [] := List.filter_eq_nil_iff.2 (by simpa using unregistered)
    have earlier : type.name ∉ o.passed := fun mem => unpassed (List.mem_append_right _ mem)
    rw [served.findType?_eq, none_registered]
    exact h.fresh type mem earlier

theorem honest_ask {next : r.Answer → Dialogue (Outcome o.call.Result)} (h : o.Sound start s history)
    (rest : o.rest = .ask r next) : (Dialogue.ask r next).Honest := by
  rw [← rest]
  exact h.honest

/-- The answer to its own request is what may be cached next. -/
theorem goOn {next : r.Answer → Dialogue (Outcome o.call.Result)} (h : o.Sound start s history)
    (rest : o.rest = .ask r next) (served : Serves s c r answer s' c') (hs : s.TypesKeyed)
    (stored : ∀ name, s'.findType? name =
      held start (history ++ [.asked o.passed ⟨r, answer⟩]) name) :
    (o.goOn next answer).Sound start s' (history ++ [.asked o.passed ⟨r, answer⟩]) where
  path asked result path := by
    have begun : o.rest.Path (⟨r, answer⟩ :: asked) result := by
      rw [rest]
      exact ⟨answer, asked, rfl, path⟩
    have through := h.path _ _ begun
    rwa [List.append_cons] at through
  observed x mem := by
    rcases List.mem_append.1 mem with mem | mem
    · exact (h.observed x mem).append _
    · exact ⟨history, o.passed, [], by rw [List.mem_singleton.1 mem]⟩
  honest := (h.honest_ask rest answer).1
  wasHeld type mem := by
    cases written : r.isWrite with
    | true =>
      have pending : type ∈ o.rest.pending := rest ▸ Dialogue.pending_subset_ask written answer mem
      exact (h.wasHeld type pending).append _
    | false =>
      have answered := (h.honest_ask rest answer).2.1 written mem
      exact ⟨history, o.passed, ⟨r, answer⟩, [], rfl, answered,
        (stored type.name).symm.trans (served.findType?_of_answered hs answered)⟩
  fresh type mem unpassed := by
    cases written : r.isWrite with
    | true =>
      have pending : type ∈ o.rest.pending := rest ▸ Dialogue.pending_subset_ask written answer mem
      rw [passed_goOn_of_isWrite written] at unpassed
      rw [served.rows_eq_of_isWrite written]
      exact h.fresh type pending unpassed
    | false => exact served.findType?_of_answered hs ((h.honest_ask rest answer).2.1 written mem)

end Ongoing.Sound

/-- What is pending stays so when one call goes on and keeps the name pending, whatever happens to the
other calls besides. -/
theorem IsPending.goesOn {before after : List Ongoing}
    (pending : IsPending (before ++ o :: after) name) (f : Ongoing → Ongoing)
    (keeps : ∀ p, (f p).rest.pending = p.rest.pending) {o' : Ongoing}
    (own : ∀ type ∈ o.rest.pending, type.name = name → ∃ type ∈ o'.rest.pending, type.name = name) :
    IsPending (before.map f ++ o' :: after.map f) name := by
  obtain ⟨p, mem, type, waits, named⟩ := pending
  rcases List.mem_append.1 mem with mem | mem
  · exact ⟨f p, List.mem_append_left _ (List.mem_map_of_mem mem), type, keeps p ▸ waits, named⟩
  · rcases List.mem_cons.1 mem with rfl | mem
    · exact ⟨o', List.mem_append_right _ (List.mem_cons_self ..), own type waits named⟩
    · exact ⟨f p, List.mem_append_right _ (List.mem_cons_of_mem _ (List.mem_map_of_mem mem)), type,
        keeps p ▸ waits, named⟩

/-- A call with nothing pending may be left out. -/
theorem IsPending.of_still {before after : List Ongoing}
    (pending : IsPending (before ++ o :: after) name) (still : o.rest.pending = []) :
    IsPending (before ++ after) name := by
  obtain ⟨p, mem, type, waits, named⟩ := pending
  rcases List.mem_append.1 mem with mem | mem
  · exact ⟨p, List.mem_append_left _ mem, type, waits, named⟩
  · rcases List.mem_cons.1 mem with rfl | mem
    · rw [still] at waits
      cases waits
    · exact ⟨p, List.mem_append_right _ mem, type, waits, named⟩

namespace Traffic.Sound

/-- In the beginning nothing is cached. -/
theorem init (hs : start.TypesKeyed) : Traffic.Sound start [] { rows := start } where
  keyed := hs
  stored _ := rfl
  calls _ mem := by cases mem
  wasHeld _ _ cached := by cases cached
  current _ _ cached := by cases cached
  unknown earlier _ _ _ split := by simp at split
  returned _ _ _ mem := by cases mem

theorem call (h : w.Sound start history) (call : Call) : Traffic.Sound start history
    { w with calls := w.calls ++ [{ call, rest := call.dialogue }] } where
  keyed := h.keyed
  stored := h.stored
  calls o mem := by
    rcases List.mem_append.1 mem with mem | mem
    · exact h.calls o mem
    · rw [List.mem_singleton.1 mem]
      exact .init start w.rows history call
  wasHeld := h.wasHeld
  current name type cached still := (h.current name type cached still).imp_right
    fun ⟨o, mem, pending⟩ => ⟨o, List.mem_append_left _ mem, pending⟩
  unknown := h.unknown
  returned := h.returned

theorem elsewhere (h : w.Sound start history) {rows : State} (types : rows.types = w.rows.types) :
    Traffic.Sound start history { w with rows } := by
  have found : ∀ name, rows.findType? name = w.rows.findType? name := by
    intro name
    rw [State.findType?, types, State.findType?]
  exact {
    keyed := by
      show (rows.types.map _).Nodup
      rw [types]
      exact h.keyed
    stored := fun name => (found name).trans (h.stored name)
    calls := fun o mem =>
      { h.calls o mem with
        fresh := fun type pending unpassed =>
          (found type.name).trans ((h.calls o mem).fresh type pending unpassed) }
    wasHeld := h.wasHeld
    current := fun name type cached still =>
      (h.current name type cached still).imp_left (found name).trans
    unknown := h.unknown
    returned := h.returned }

variable {before after : List Ongoing}

theorem own (h : w.Sound start history) (here : w.calls = before ++ o :: after) :
    o.Sound start w.rows history :=
  h.calls o (here ▸ List.mem_append_right _ (List.mem_cons_self ..))

theorem others (h : w.Sound start history) (here : w.calls = before ++ o :: after) {p : Ongoing}
    (mem : p ∈ before ++ after) : p.Sound start w.rows history := by
  refine h.calls p ?_
  rw [here]
  rcases List.mem_append.1 mem with mem | mem
  · exact List.mem_append_left _ mem
  · exact List.mem_append_right _ (List.mem_cons_of_mem _ mem)

theorem report (h : w.Sound start history) (here : w.calls = before ++ o :: after)
    {event : Telemetry.Event} {next : Dialogue (Outcome o.call.Result)}
    (rest : o.rest = .report event next) : Traffic.Sound start history
      { w with calls := before ++ { o with rest := next } :: after } where
  keyed := h.keyed
  stored := h.stored
  calls p mem := by
    rcases List.mem_append.1 mem with mem | mem
    · exact h.others here (List.mem_append_left _ mem)
    · rcases List.mem_cons.1 mem with rfl | mem
      · exact (h.own here).report rest
      · exact h.others here (List.mem_append_right _ mem)
  wasHeld := h.wasHeld
  current name type cached still := by
    refine (h.current name type cached still).imp_right fun pending => ?_
    rw [here] at pending
    rw [← List.map_id before, ← List.map_id after]
    refine pending.goesOn id (fun _ => rfl) fun type waits named => ⟨type, ?_, named⟩
    rwa [rest] at waits
  unknown := h.unknown
  returned := h.returned

theorem return_ (h : w.Sound start history) (here : w.calls = before ++ o :: after)
    {result : Outcome o.call.Result} (rest : o.rest = .done result) : Traffic.Sound start
      (history ++ [.returned o.call result o.asked]) { w with calls := before ++ after } where
  keyed := h.keyed
  stored name := by
    rw [held_concat_returned]
    exact h.stored name
  calls _ mem := (h.others here mem).append _
  wasHeld name type cached := (h.wasHeld name type cached).append _
  current name type cached still := by
    rw [overtaken_concat] at still
    refine (h.current name type cached still).imp_right fun pending => ?_
    rw [here] at pending
    exact pending.of_still (congrArg Dialogue.pending rest)
  unknown earlier passed name later split := by
    rcases split_concat split with ⟨-, never⟩ | ⟨later, split⟩
    · cases never
    · exact h.unknown earlier passed name later split
  returned call' result' asked mem := by
    rcases List.mem_append.1 mem with mem | mem
    · obtain ⟨path, observed⟩ := h.returned call' result' asked mem
      exact ⟨path, fun x mem => (observed x mem).append _⟩
    · cases List.mem_singleton.1 mem
      have through := (h.own here).path [] result (rest ▸ ⟨rfl, rfl⟩)
      rw [List.append_nil] at through
      exact ⟨through, fun x mem => ((h.own here).observed x mem).append _⟩

/-- A request that writes nothing keeps the cache as current as it was: what it has registered is
pending then. -/
theorem current_of_read (h : w.Sound start history) (here : w.calls = before ++ o :: after)
    {next : r.Answer → Dialogue (Outcome o.call.Result)} (rest : o.rest = .ask r next)
    (served : Serves w.rows w.cache r answer s c) (unwritten : r.isWrite = false)
    (cached : w.cache.find? name = some type) (still : overtaken name history = false) :
    s.findType? name = some type ∨ IsPending (before.map (.pass ⟨r, answer⟩) ++ o.goOn next answer ::
      after.map (.pass ⟨r, answer⟩)) name := by
  rw [served.findType?_eq]
  cases registered : (Asked.registered ⟨r, answer⟩).filter fun type => type.name = name with
  | cons stored others =>
    have mem := (List.mem_cons_self : stored ∈ stored :: others)
    rw [← registered, List.mem_filter] at mem
    exact .inr ⟨o.goOn next answer, List.mem_append_right _ (List.mem_cons_self ..), stored,
      ((h.own here).honest_ask rest answer).2.2 mem.1, of_decide_eq_true mem.2⟩
  | nil =>
    refine (h.current name type cached still).imp_right fun pending => ?_
    rw [here] at pending
    refine pending.goesOn (.pass ⟨r, answer⟩) (fun _ => rfl) fun type waits _ => ?_
    rw [rest, Dialogue.pending_ask_of_not_isWrite unwritten] at waits
    cases waits

/-- A type that is cached is the current one unless its name was overtaken. -/
theorem current_of_cache (h : w.Sound start history) (here : w.calls = before ++ o :: after)
    {stored : TaskType} {next : Unit → Dialogue (Outcome o.call.Result)}
    (rest : o.rest = .ask (.cache stored) next)
    (cached : (w.cache.insert stored).find? name = some type)
    (still : overtaken name (history ++ [.asked o.passed ⟨.cache stored, ()⟩]) = false) :
    w.rows.findType? name = some type ∨
      IsPending (before.map (.pass ⟨.cache stored, ()⟩) ++
        o.goOn (r := .cache stored) next () :: after.map (.pass ⟨.cache stored, ()⟩)) name := by
  have own := h.own here
  rw [TypeCache.find?_insert] at cached
  rw [overtaken_concat, Event.overtakes_cache] at still
  by_cases same : name = stored.name
  · subst same
    rw [if_pos rfl] at cached still
    obtain rfl := Option.some.inj cached
    have pending : stored ∈ o.rest.pending := rest ▸ List.mem_cons_self ..
    exact .inl (own.fresh stored pending (of_decide_eq_false still))
  · rw [if_neg same] at cached
    rw [if_neg (Ne.symm same)] at still
    refine (h.current name type cached still).imp_right fun pending => ?_
    rw [here] at pending
    refine pending.goesOn (.pass ⟨.cache stored, ()⟩) (fun _ => rfl) fun type waits named => ?_
    rw [rest] at waits
    rcases List.mem_cons.1 waits with rfl | waits
    · exact absurd named.symm same
    · exact ⟨type, waits, named⟩

theorem ask (h : w.Sound start history) (here : w.calls = before ++ o :: after)
    {next : r.Answer → Dialogue (Outcome o.call.Result)} (rest : o.rest = .ask r next)
    (served : Serves w.rows w.cache r answer s c) : Traffic.Sound start
      (history ++ [.asked o.passed ⟨r, answer⟩])
      ⟨s, c, before.map (.pass ⟨r, answer⟩) ++ o.goOn next answer ::
        after.map (.pass ⟨r, answer⟩)⟩ := by
  have own := h.own here
  have stored : ∀ name, s.findType? name =
      held start (history ++ [.asked o.passed ⟨r, answer⟩]) name := by
    intro name
    rw [held_concat_asked, served.findType?_eq, h.stored]
  refine ⟨served.keyed h.keyed, stored, ?_, ?_, ?_, ?_, ?_⟩
  · intro p mem
    rcases List.mem_append.1 mem with mem | mem
    · obtain ⟨q, known, rfl⟩ := List.mem_map.1 mem
      exact ((h.others here (List.mem_append_left _ known)).pass served).append _
    · rcases List.mem_cons.1 mem with rfl | mem
      · exact own.goOn rest served h.keyed stored
      · obtain ⟨q, known, rfl⟩ := List.mem_map.1 mem
        exact ((h.others here (List.mem_append_right _ known)).pass served).append _
  · intro name type cached
    rcases served.find?_cases cached with cached | rfl
    · exact (h.wasHeld name type cached).append _
    · have pending : type ∈ o.rest.pending := rest ▸ List.mem_cons_self ..
      exact (own.wasHeld type pending).append _
  · intro name type cached still
    cases written : r.isWrite with
    | false =>
      rw [served.cache_eq_of_not_isWrite written] at cached
      rw [overtaken_concat, Event.overtakes_of_not_isWrite written] at still
      exact h.current_of_read here rest served written cached still
    | true =>
      cases served with
      | cache stored => exact h.current_of_cache here rest cached still
      | clear => cases cached
      | _ => cases written
  · intro earlier passed name later split
    rcases split_concat split with ⟨rfl, last⟩ | ⟨later, split⟩
    · cases last
      exact (h.stored name).symm.trans served.findType?_of_find
    · exact h.unknown earlier passed name later split
  · intro call result asked mem
    rcases List.mem_append.1 mem with mem | mem
    · obtain ⟨path, observed⟩ := h.returned call result asked mem
      exact ⟨path, fun x mem => (observed x mem).append _⟩
    · cases List.mem_singleton.1 mem

theorem step {events : List Event} (h : w.Sound start history) (step : w.Step events w') :
    w'.Sound start (history ++ events) := by
  cases step with
  | call call =>
    rw [List.append_nil]
    exact h.call call
  | ask here rest served => exact h.ask here rest served
  | report here rest =>
    rw [List.append_nil]
    exact h.report here rest
  | return_ here rest => exact h.return_ here rest
  | elsewhere types =>
    rw [List.append_nil]
    exact h.elsewhere types

end Traffic.Sound

theorem Traffic.Steps.sound (hs : start.TypesKeyed)
    (steps : Traffic.Steps { rows := start } history w) : w.Sound start history := by
  induction steps with
  | nil => exact .init hs
  | snoc _ step ih => exact ih.step step

/-! ### What is promised of the cache -/

namespace Traffic

/-- What is promised of the cache after any steps. -/
structure Kept (start : State) (history : List Event) (w : Traffic) : Prop where
  stored : ∀ name, w.rows.findType? name = held start history name
  /-- A cached type was stored under its name when the storage answered with it. -/
  wasHeld : ∀ name type, w.cache.find? name = some type →
    type.name = name ∧ WasHeld start history type
  /-- Once no call is in progress it is the stored one, unless the call that cached it was overtaken. -/
  current : w.calls = [] → ∀ name type, w.cache.find? name = some type →
    overtaken name history = false → w.rows.findType? name = some type
  /-- So the registry returns the type that was registered last, and refuses an unknown name. -/
  got : w.calls = [] → ∀ name, overtaken name history = false →
    ∀ (policy : Backoff.Policy) (world : Simulation.World), world.memory.state = w.rows →
      (runWith (get (Memory.backend policy) name) w.cache world).1.1 =
        match held start history name with
        | some type => .ok type
        | none => .error (.invalidTaskType name)
  /-- A call in progress refuses a name only if an access fails, or the storage has answered that the
  name is unknown. No registration of it had come to the storage then. -/
  refused : ∀ name failure asked, .returned (.get name) (.error failure) asked ∈ history →
    (∃ x ∈ asked, x.Fails) ∨ (failure = .invalidTaskType name ∧
      ∃ earlier passed later, history = earlier ++ .asked passed ⟨.find name, .ok none⟩ :: later ∧
        start.findType? name = none ∧ registrations earlier name = [])
  /-- A call whose access failed has left the cache as it was, but for the types that a seed has
  registered before. -/
  failed : ∀ call result asked, .returned call result asked ∈ history → (∃ x ∈ asked, x.Fails) →
    Dialogue.CachesRegistered asked ∧
      ((∀ entries, call ≠ .seed entries) → asked.flatMap Asked.cached = [])

/-- **The cache keeps up with the storage.** Calls of one registry cross in any way. A cached type was
stored when the storage answered with it, and it still is unless a registration has overtaken the call
that cached it. -/
theorem cache_kept {start : State} (hs : start.TypesKeyed) {history : List Event} {w : Traffic}
    (steps : Steps { rows := start } history w) : w.Kept start history := by
  have sound := steps.sound hs
  have current : w.calls = [] → ∀ name type, w.cache.find? name = some type →
      overtaken name history = false → w.rows.findType? name = some type := by
    intro idle name type cached still
    refine (sound.current name type cached still).resolve_right ?_
    rintro ⟨o, mem, -⟩
    rw [idle] at mem
    cases mem
  refine ⟨sound.stored, ?_, current, ?_, ?_, ?_⟩
  · exact fun name type cached => ⟨TypeCache.name_of_find? cached, sound.wasHeld name type cached⟩
  · intro idle name still policy world rows
    rw [run_get, rows]
    cases cached : w.cache.find? name with
    | some type =>
      rw [← sound.stored, current idle name type cached still]
    | none =>
      rw [← sound.stored]
      cases w.rows.findType? name with
      | some type => rfl
      | none => rfl
  · intro name failure asked mem
    obtain ⟨path, observed⟩ := sound.returned _ _ _ mem
    refine (Call.get_refused path).imp_right fun ⟨refused, asked⟩ => ⟨refused, ?_⟩
    obtain ⟨earlier, passed, later, split⟩ := observed _ asked
    exact ⟨earlier, passed, later, split,
      held_eq_none_iff.1 (sound.unknown earlier passed name later split)⟩
  · exact fun call result asked mem fails =>
      Call.caches_registered (sound.returned call result asked mem).1 fails

/-- Two policies for mail. -/
def hastyMail : NewTaskType := ⟨"mail", 3, 60, none⟩
def patientMail : NewTaskType := ⟨"mail", 5, 300, none⟩

/-- Two calls register mail. The second one gets through to the storage before the first has cached its
policy, but caches its own policy after it. -/
def inTurn : List Move :=
  [.call (.register hastyMail), .call (.register patientMail), .turn 0, .turn 0, .turn 1, .turn 0,
    .turn 0, .turn 0, .turn 0, .turn 0]

/-- The first call was overtaken, but not the second, so the cache has the policy of the storage. -/
theorem cache_kept_in_turn :
    let played := play .epoch inTurn ([], { rows := {} })
    State.TypesKeyed {} ∧ Steps { rows := {} } played.1 played.2 ∧ played.2.Kept {} played.1 ∧
      played.2.calls = [] ∧ overtaken "mail" played.1 = false ∧
      played.2.cache.find? "mail" = some (patientMail.registeredAt .epoch) ∧
      played.2.rows.findType? "mail" = some (patientMail.registeredAt .epoch) := by
  have steps : Steps { rows := {} } _ _ := steps_play .epoch inTurn .nil
  have keyed : State.TypesKeyed {} := List.nodup_nil
  have kept := cache_kept keyed steps
  have idle : (play .epoch inTurn ([], { rows := {} })).2.calls = [] := by rfl
  have still : overtaken "mail" (play .epoch inTurn ([], { rows := {} })).1 = false := by rfl
  have cached : (play .epoch inTurn ([], { rows := {} })).2.cache.find? "mail" =
    some (patientMail.registeredAt .epoch) := by rfl
  exact ⟨keyed, steps, kept, idle, still, cached,
    kept.current idle "mail" _ cached still⟩

/-- The first call caches its policy after the second one has returned. -/
def outOfTurn : List Move :=
  [.call (.register hastyMail), .call (.register patientMail), .turn 0, .turn 1, .turn 1, .turn 1,
    .turn 1, .turn 0, .turn 0, .turn 0]

/-- Mail and bills are seeded, and the storage fails to register bills. -/
def seedingFails : List Move :=
  [.call (.seed [⟨"mail", 3, 60, none⟩, ⟨"bill", 5, 30, none⟩]), .turn 0, .turn 0, .turn 0,
    .turn 0 (some (.database "boom")), .turn 0]

/-- With no call in progress, the cache can have another policy than the storage: the one of a call that
was overtaken. A call whose access failed can have changed the cache: mail was seeded before bills
failed. -/
theorem cache_overtaken :
    (let played := play .epoch outOfTurn ([], { rows := {} })
    Steps { rows := {} } played.1 played.2 ∧ played.2.calls = [] ∧
      played.2.cache.find? "mail" = some (hastyMail.registeredAt .epoch) ∧
      played.2.rows.findType? "mail" = some (patientMail.registeredAt .epoch)) ∧
    let played := play .epoch seedingFails ([], { rows := {} })
    Steps { rows := {} } played.1 played.2 ∧ played.2.calls = [] ∧
      played.1.getLast? = some (.returned (.seed [⟨"mail", 3, 60, none⟩, ⟨"bill", 5, 30, none⟩])
        (.error (.database "boom"))
        [⟨.upsert hastyMail, .ok (hastyMail.registeredAt .epoch)⟩,
          ⟨.cache (hastyMail.registeredAt .epoch), ()⟩,
          ⟨.upsert ⟨"bill", 5, 30, none⟩, .error (.database "boom")⟩]) ∧
      played.2.cache.types = [hastyMail.registeredAt .epoch] :=
  ⟨⟨steps_play .epoch outOfTurn .nil, rfl, rfl, rfl⟩,
    steps_play .epoch seedingFails .nil, rfl, rfl, rfl⟩

end Traffic

end WorkQueue.TypeRegistry
