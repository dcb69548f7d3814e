import WorkQueue.Failure
import WorkQueue.Timestamp.Text

/-!
# Decoding JSON values

The building blocks of the wire forms: numbers within bounds, names of enumerations, identifiers,
instants, and records. A record is an object with its fields by name, or an array with its fields in
order. Unknown members are ignored; a member that occurs twice is refused.

## Main definitions

* `Wire.Fault`, `Wire.Decode`: decoding with its two kinds of failure
* `Wire.Record`, `Wire.record`: the fields of a record
* `Wire.Record.required`, `optional`, `defaulted`, `optionalDefaulted`: fields by their kind
-/

namespace WorkQueue.Wire

/-- Why a JSON value is refused. -/
inductive Fault where
  /-- It does not have the form of the type. -/
  | malformed
  /-- It has the form, and a check of the type refuses it. -/
  | refused (failure : Failure)
  deriving DecidableEq, Inhabited

/-- The result of decoding. -/
abbrev Decode (α : Type) := Except Fault α

/-- A value that is there, or else malformed. -/
def expect {α : Type} : Option α → Decode α
  | some a => .ok a
  | none => .error .malformed

/-! ### Scalars -/

/-- An integer of a range; other numbers are refused, whole or not. -/
def integer (r : IntRange) : Json → Decode Int
  | .number (.integer n) => expect (r.keep? n)
  | _ => .error .malformed

/-- A signed integer of 32 bits. -/
def int32 : Json → Decode Int := integer .int32

/-- A signed integer of 64 bits. -/
def int64 : Json → Decode Int := integer .int64

/-- An unsigned integer of 32 bits. -/
def nat32 (j : Json) : Decode Nat := (integer .nat32 j).map Int.toNat

/-- An unsigned integer of 64 bits. -/
def nat64 (j : Json) : Decode Nat := (integer .nat64 j).map Int.toNat

/-- A floating-point number; integers are rounded to one. -/
def binary : Json → Decode Binary64
  | .number (.integer n) => .ok (.ofInt n)
  | .number (.binary x) => .ok x
  | _ => .error .malformed

def text : Json → Decode String
  | .text s => .ok s
  | _ => .error .malformed

def bool : Json → Decode Bool
  | .bool b => .ok b
  | _ => .error .malformed

def uuid (j : Json) : Decode Uuid := do expect (Uuid.ofText? (← text j))

def instant (j : Json) : Decode Timestamp := do expect (Timestamp.ofText? (← text j))

/-- Any value, in the form in which it is stored. -/
def anything (j : Json) : Decode Json := .ok j.normalize

/-- A value without data, written as its name or as an object that maps the name to null. -/
def named {α : Type} (ofName : String → Option α) : Json → Decode α
  | .text s => expect (ofName s)
  | .object [(s, .null)] => expect (ofName s)
  | _ => .error .malformed

/-- A list of values. -/
def list {α : Type} (item : Json → Decode α) : Json → Decode (List α)
  | .array items => items.mapM item
  | _ => .error .malformed

/-- A value or null. -/
def nullable {α : Type} (item : Json → Decode α) : Json → Decode (Option α)
  | .null => .ok none
  | j => (item j).map some

/-! ### Records -/

/-- The fields of a record that are given. -/
structure Record where
  fields : List (String × Json)
  /-- The record is an array, in which only fields with defaults may be missing. -/
  positional : Bool
  deriving Inhabited

/-- The fields of a record with the given names. -/
def record (names : List String) : Json → Decode Record
  | .object members =>
    let known := members.filter fun f => names.contains f.1
    if (known.map (·.1)).Nodup then .ok ⟨known, false⟩ else .error .malformed
  | .array items =>
    if items.length ≤ names.length then .ok ⟨names.zip items, true⟩ else .error .malformed
  | _ => .error .malformed

namespace Record

variable {α : Type}

def find? (r : Record) (name : String) : Option Json :=
  (r.fields.find? fun f => f.1 = name).map (·.2)

/-- A field that has to be given. -/
def required (r : Record) (name : String) (item : Json → Decode α) : Decode α :=
  match r.find? name with
  | some j => item j
  | none => .error .malformed

/-- A field that may be null, or missing from an object. -/
def optional (r : Record) (name : String) (item : Json → Decode α) : Decode (Option α) :=
  match r.find? name with
  | some j => nullable item j
  | none => if r.positional then .error .malformed else .ok none

/-- A field with a default for when it is missing; null is not missing. -/
def defaulted (r : Record) (name : String) (default : α) (item : Json → Decode α) : Decode α :=
  match r.find? name with
  | some j => item j
  | none => .ok default

/-- A field that may be null or missing. -/
def optionalDefaulted (r : Record) (name : String) (item : Json → Decode α) :
    Decode (Option α) :=
  match r.find? name with
  | some j => nullable item j
  | none => .ok none

end Record

/-! ### Encoding -/

/-- An identifier as JSON. -/
def ofUuid (id : Uuid) : Json := .text id.toText

/-- An instant as JSON. -/
def ofInstant (t : Timestamp) : Json := .text t.toText

/-- An optional instant as JSON. -/
def ofInstant? : Option Timestamp → Json
  | none => .null
  | some t => ofInstant t

end WorkQueue.Wire
