import WorkQueue.Binary64

/-!
# JSON values

JSON trees as they are read: an object keeps its members in the order of the text, repeated keys
included. `Json.normalize` is the form that payloads are stored in.

## Main definitions

* `Json.Number`, `Json`: the tree
* `Json.normalize`: members sorted by key, the last of several members with one key kept
-/

namespace WorkQueue

/-- A JSON number: an integer of 64 bits, signed or unsigned, or a floating-point number. -/
inductive Json.Number where
  /-- An integer from `-2 ^ 63` up to `2 ^ 64 - 1`. -/
  | integer (n : Int)
  /-- Any other number. -/
  | binary (x : Binary64)
  deriving DecidableEq, Inhabited

/-- A JSON value. -/
inductive Json where
  | null
  | bool (b : Bool)
  | number (n : Json.Number)
  | text (s : String)
  | array (items : List Json)
  | object (members : List (String × Json))
  deriving Inhabited

namespace Json

/-- The smallest and the largest integer that a JSON number keeps exactly. -/
def minInteger : Int := IntRange.int64.lo

@[inherit_doc minInteger]
def maxInteger : Int := IntRange.nat64.hi

/-- An integer as a JSON value. -/
def int (n : Int) : Json := number (.integer n)

/-- A natural number as a JSON value. -/
def nat (n : Nat) : Json := int n

/-- A floating-point number as a JSON value. -/
def binary (x : Binary64) : Json := number (.binary x)

/-- A text or null. -/
def ofText? : Option String → Json
  | none => null
  | some s => text s

def isObject : Json → Bool
  | object _ => true
  | _ => false

/-! ### Members -/

/-- Puts a member in its place among members in strictly ascending order of keys, replacing the
member with the same key. -/
def insertMember (key : String) (value : Json) : List (String × Json) → List (String × Json)
  | [] => [(key, value)]
  | (k, v) :: rest =>
    if key < k then (key, value) :: (k, v) :: rest
    else if k = key then (key, value) :: rest
    else (k, v) :: insertMember key value rest

mutual

/-- The value with the members of every object sorted by key, the last one of each key kept. -/
def normalize : Json → Json
  | array items => array (normalizeItems items)
  | object members => object (normalizeMembers members [])
  | other => other

/-- Normalizes each item of an array. -/
def normalizeItems : List Json → List Json
  | [] => []
  | item :: rest => item.normalize :: normalizeItems rest

/-- Adds normalized members to sorted ones, from the first to the last. -/
def normalizeMembers : List (String × Json) → List (String × Json) → List (String × Json)
  | [], sorted => sorted
  | (k, v) :: rest, sorted => normalizeMembers rest (insertMember k v.normalize sorted)

end

/-- The value of the last member with a key. -/
def member? (key : String) : Json → Option Json
  | object members => (members.reverse.find? fun m => m.1 = key).map (·.2)
  | _ => none

end Json

end WorkQueue
