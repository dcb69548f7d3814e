import WorkQueue.Proofs.Wire.Identifiers
import WorkQueue.Proofs.Wire.Instants
import WorkQueue.Proofs.Wire.Payloads
import WorkQueue.Wire.Decoder

/-!
# Fields that are read back

A decoder and an encoder fit when every value that is decoded, from whichever spelling, is decoded
again from what is written of it. Scalars fit one by one; a record fits when its fields do.

## Main definitions

* `Wire.Returns`: a decoder and an encoder that fit
* `Wire.Carried`: the part of a record's decoder that follows some of its fields

## Main statements

* `Wire.returns_integer`, `Wire.returns_uuid` and so on: scalars
* `Wire.Carried.required`, `Wire.Carried.optional` and so on: one more field
* `Wire.returns_record`: records
-/

namespace WorkQueue.Wire

variable {α β : Type} {decode : Json → Decode α} {encode : α → Json}

/-- What was decoded is decoded again from what is written of it. -/
def Returns (decode : Json → Decode α) (encode : α → Json) : Prop :=
  ∀ j a, decode j = .ok a → decode (encode a) = .ok a

theorem bind_eq_ok {x : Decode α} {f : α → Decode β} {b : β} :
    (x >>= f) = .ok b ↔ ∃ a, x = .ok a ∧ f a = .ok b := by
  cases x with
  | error => simp [bind, Except.bind]
  | ok a => simp [bind, Except.bind]

theorem expect_eq_ok {o : Option α} {a : α} : expect o = .ok a ↔ o = some a := by
  cases o <;> simp [expect]

/-! ### Scalars -/

theorem integer_eq_ok {r : IntRange} {j : Json} {n : Int} :
    integer r j = .ok n ↔ j = .int n ∧ r.lo ≤ n ∧ n ≤ r.hi := by
  unfold integer
  split
  · rename_i k
    rw [expect_eq_ok, IntRange.keep?_eq_some_iff]
    simp only [Json.int, Json.number.injEq, Json.Number.integer.injEq]
    constructor
    · rintro ⟨rfl, h⟩
      exact ⟨rfl, h⟩
    · rintro ⟨rfl, h⟩
      exact ⟨rfl, h⟩
  · rename_i hother
    simp only [reduceCtorEq, false_iff, not_and]
    rintro rfl
    exact absurd rfl (hother n)

theorem returns_integer (r : IntRange) : Returns (integer r) .int := by
  intro j n h
  rw [integer_eq_ok] at h ⊢
  exact ⟨rfl, h.2⟩

theorem nat32_eq_ok {j : Json} {n : Nat} : nat32 j = .ok n ↔ j = .nat n ∧ n ≤ 0xFFFFFFFF := by
  have hmap : nat32 j = .ok n ↔ ∃ k, integer .nat32 j = .ok k ∧ k.toNat = n := by
    unfold nat32
    cases integer .nat32 j <;> simp [Except.map]
  simp only [hmap, integer_eq_ok, IntRange.nat32, Json.nat]
  constructor
  · rintro ⟨k, ⟨rfl, hlo, hhi⟩, rfl⟩
    rw [Int.toNat_of_nonneg hlo]
    exact ⟨rfl, by omega⟩
  · rintro ⟨rfl, hn⟩
    exact ⟨n, ⟨rfl, by omega, by omega⟩, Int.toNat_natCast n⟩

theorem text_eq_ok {j : Json} {s : String} : text j = .ok s ↔ j = .text s := by
  cases j <;> simp [text]

theorem uuid_eq_ok {j : Json} {id : Uuid} :
    uuid j = .ok id ↔ ∃ s, j = .text s ∧ Uuid.ofText? s = some id := by
  simp only [uuid, bind_eq_ok, text_eq_ok, expect_eq_ok]

theorem instant_eq_ok {j : Json} {t : Timestamp} :
    instant j = .ok t ↔ ∃ s, j = .text s ∧ Timestamp.ofText? s = some t := by
  simp only [instant, bind_eq_ok, text_eq_ok, expect_eq_ok]

theorem returns_text : Returns text .text := by
  intro j s _
  exact text_eq_ok.2 rfl

theorem returns_uuid : Returns uuid ofUuid := by
  intro j id _
  exact uuid_eq_ok.2 ⟨id.toText, rfl, Uuid.ofText?_toText id⟩

theorem returns_instant : Returns instant ofInstant := by
  intro j t h
  obtain ⟨s, -, hs⟩ := instant_eq_ok.1 h
  exact instant_eq_ok.2
    ⟨t.toText, rfl, Timestamp.ofText?_toText (Timestamp.leapEndsMinute_of_ofText? hs)⟩

theorem returns_anything : Returns anything id := by
  intro j a h
  obtain rfl := Except.ok.inj h
  exact congrArg Except.ok j.normalize_normalize

/-- Values with names are written as their names. -/
theorem returns_named {ofName : String → Option α} {name : α → String}
    (h : ∀ a, ofName (name a) = some a) : Returns (named ofName) fun a => .text (name a) := by
  intro j a _
  exact expect_eq_ok.2 (h a)

/-- A value that may be missing; then null is written. -/
def ofOption (encode : α → Json) (o : Option α) : Json := (o.map encode).getD .null

@[simp] theorem ofText?_eq (o : Option String) : Json.ofText? o = ofOption .text o := by
  cases o <;> rfl

@[simp] theorem ofInstant?_eq (o : Option Timestamp) : ofInstant? o = ofOption ofInstant o := by
  cases o <;> rfl

theorem nullable_of_ne_null {j : Json} (h : j ≠ .null) :
    nullable decode j = (decode j).map some := by
  cases j <;> simp [nullable] at h ⊢

theorem returns_nullable (h : Returns decode encode) (hnull : ∀ a, encode a ≠ .null) :
    Returns (nullable decode) (ofOption encode) := by
  intro j o hj
  cases o with
  | none => rfl
  | some a =>
    have hne : j ≠ .null := by
      rintro rfl
      simp [nullable] at hj
    rw [nullable_of_ne_null hne] at hj
    have ha : decode j = .ok a := by
      cases hd : decode j with
      | error => simp [hd, Except.map] at hj
      | ok b => simpa [hd, Except.map] using hj
    show nullable decode (encode a) = .ok (some a)
    rw [nullable_of_ne_null (hnull a), h j a ha]
    rfl

/-! ### Records -/

theorem required_eq_ok {r : Record} {name : String} {a : α} (h : r.required name decode = .ok a) :
    ∃ j, decode j = .ok a := by
  unfold Record.required at h
  split at h
  · exact ⟨_, h⟩
  · simp at h

theorem optional_eq_ok {r : Record} {name : String} {o : Option α}
    (h : r.optional name decode = .ok o) : o = none ∨ ∃ j, nullable decode j = .ok o := by
  unfold Record.optional at h
  split at h
  · exact .inr ⟨_, h⟩
  · split at h
    · simp at h
    · exact .inl (Except.ok.inj h).symm

theorem defaulted_eq_ok {r : Record} {name : String} {a d : α}
    (h : r.defaulted name d decode = .ok a) : a = d ∨ ∃ j, decode j = .ok a := by
  unfold Record.defaulted at h
  split at h
  · exact .inr ⟨_, h⟩
  · exact .inl (Except.ok.inj h).symm

/-- The written form of a record, as it is read again. -/
def written (fields : List (String × Json)) : Record := ⟨fields, false⟩

@[simp] theorem find?_written_cons {name : String} {f : String × Json}
    {fields : List (String × Json)} : (written (f :: fields)).find? name =
      if f.1 = name then some f.2 else (written fields).find? name := by
  simp only [Record.find?, written, List.find?_cons]
  split
  · rename_i h
    rw [if_pos (of_decide_eq_true h)]
    rfl
  · rename_i h
    rw [if_neg (of_decide_eq_false h)]

theorem record_object {names : List String} {fields : List (String × Json)}
    (hnames : fields.map (·.1) = names) (hnodup : names.Nodup) :
    record names (.object fields) = .ok (written fields) := by
  subst hnames
  have hall : fields.filter (fun f => (fields.map (·.1)).contains f.1) = fields := by
    rw [List.filter_eq_self]
    intro f hf
    simpa using ⟨f.2, hf⟩
  simp only [record, hall, hnodup, if_true, written]

/-- Decoding the fields `fields v` of a decoded value `v` gives `v` again; `Q` says what the value
holds of the fields before. -/
def Carried (fields : β → List (String × Json)) (Q : β → Prop) (k : Record → Decode β) : Prop :=
  ∀ r v, k r = .ok v → Q v ∧ k (written (fields v)) = .ok v

namespace Carried

variable {fields : β → List (String × Json)} {Q : β → Prop} {k : α → Record → Decode β}
  {name : String}

theorem pure {v : β} (h : Q v) : Carried fields Q fun _ => Pure.pure v := by
  intro r w hw
  obtain rfl := Except.ok.inj hw
  exact ⟨h, rfl⟩

/-- One more field: what is written for it is decoded to what it was. -/
theorem field {read : Record → Decode α} {g : β → α}
    (hread : ∀ r v, read r = .ok (g v) → read (written (fields v)) = .ok (g v))
    (hk : ∀ a, Carried fields (fun v => Q v ∧ g v = a) (k a)) :
    Carried fields Q fun r => read r >>= fun a => k a r := by
  intro r v hv
  obtain ⟨a, ha, hr⟩ := bind_eq_ok.1 hv
  -- only the finished value says what was read here, so the fields behind come first
  obtain ⟨⟨hQ, rfl⟩, hwritten⟩ := hk a r v hr
  exact ⟨hQ, bind_eq_ok.2 ⟨g v, hread r v ha, hwritten⟩⟩

theorem required (h : Returns decode encode) (g : β → α)
    (hfind : ∀ v, (written (fields v)).find? name = some (encode (g v)))
    (hk : ∀ a, Carried fields (fun v => Q v ∧ g v = a) (k a)) :
    Carried fields Q fun r => r.required name decode >>= fun a => k a r := by
  refine field (fun r v hr => ?_) hk
  obtain ⟨j, hj⟩ := required_eq_ok hr
  simp only [Record.required, hfind, h j (g v) hj]

theorem defaulted {d : α} (h : Returns decode encode) (hd : decode (encode d) = .ok d) (g : β → α)
    (hfind : ∀ v, (written (fields v)).find? name = some (encode (g v)))
    (hk : ∀ a, Carried fields (fun v => Q v ∧ g v = a) (k a)) :
    Carried fields Q fun r => r.defaulted name d decode >>= fun a => k a r := by
  refine field (fun r v hr => ?_) hk
  simp only [Record.defaulted, hfind]
  rcases defaulted_eq_ok hr with hr | ⟨j, hj⟩
  · rw [hr, hd]
  · exact h j (g v) hj

theorem optional (h : Returns decode encode) (hnull : ∀ a, encode a ≠ .null) (g : β → Option α)
    {k : Option α → Record → Decode β}
    (hfind : ∀ v, (written (fields v)).find? name = some (ofOption encode (g v)))
    (hk : ∀ a, Carried fields (fun v => Q v ∧ g v = a) (k a)) :
    Carried fields Q fun r => r.optional name decode >>= fun a => k a r := by
  refine field (fun r v hr => ?_) hk
  simp only [Record.optional, hfind]
  rcases optional_eq_ok hr with hr | ⟨j, hj⟩
  · rw [hr]
    rfl
  · exact returns_nullable h hnull j (g v) hj

theorem optionalDefaulted (h : Returns decode encode) (hnull : ∀ a, encode a ≠ .null)
    (g : β → Option α) {k : Option α → Record → Decode β}
    (hfind : ∀ v, (written (fields v)).find? name = some (ofOption encode (g v)))
    (hk : ∀ a, Carried fields (fun v => Q v ∧ g v = a) (k a)) :
    Carried fields Q fun r => r.optionalDefaulted name decode >>= fun a => k a r :=
  defaulted (returns_nullable h hnull) rfl g hfind hk

/-- An optional text. -/
theorem optionalText (g : β → Option String) {k : Option String → Record → Decode β}
    (hfind : ∀ v, (written (fields v)).find? name = some (ofOption .text (g v)))
    (hk : ∀ a, Carried fields (fun v => Q v ∧ g v = a) (k a)) :
    Carried fields Q fun r => r.optional name text >>= fun a => k a r :=
  optional returns_text (fun _ => by simp) g hfind hk

/-- An optional instant. -/
theorem optionalInstant (g : β → Option Timestamp) {k : Option Timestamp → Record → Decode β}
    (hfind : ∀ v, (written (fields v)).find? name = some (ofOption ofInstant (g v)))
    (hk : ∀ a, Carried fields (fun v => Q v ∧ g v = a) (k a)) :
    Carried fields Q fun r => r.optional name instant >>= fun a => k a r :=
  optional returns_instant (fun _ => by simp [ofInstant]) g hfind hk

end Carried

theorem returns_record {names : List String} {fields : β → List (String × Json)}
    {k : Record → Decode β} (hnames : ∀ v, (fields v).map (·.1) = names) (hnodup : names.Nodup)
    (h : Carried fields (fun _ => True) k) :
    Returns (fun j => record names j >>= k) fun v => .object (fields v) := by
  intro j v hj
  obtain ⟨r, -, hr⟩ := bind_eq_ok.1 hj
  exact bind_eq_ok.2 ⟨_, record_object (hnames v) hnodup, (h r v hr).2⟩

end WorkQueue.Wire
