import WorkQueue.Binary64.Reader
import WorkQueue.Text.Numeral

/-!
# YAML values

The values that a YAML document holds, and how a scalar without quotes is understood.

## Main definitions

* `Yaml`: the value; the entries of a mapping keep the order of the document
* `Yaml.ofPlain`: the value of a plain scalar
* `Yaml.mapping?`: entries without a repeated key
-/

namespace WorkQueue

/-- A value of a YAML document. -/
inductive Yaml where
  | null
  | bool (b : Bool)
  /-- An integer of 64 bits. -/
  | integer (n : Int)
  /-- A number that is not such an integer, as it is spelled. -/
  | real (spelling : String)
  | text (s : String)
  | sequence (items : List Yaml)
  | mapping (entries : List (Yaml × Yaml))
  deriving Inhabited

namespace Yaml

/-! ### Plain scalars -/

/-- The spellings of infinity and of no number that only YAML knows. -/
def isSpecialReal (s : String) : Bool :=
  s ∈ [".inf", ".Inf", ".INF", "+.inf", "+.Inf", "+.INF", "-.inf", "-.Inf", "-.INF", ".nan",
    ".NAN"]

/-- An integer with a marked base, or with a plus sign before its numeral. -/
def markedInteger? : List Char → Option Int
  | '0' :: 'x' :: cs => Text.word? 16 cs
  | '0' :: 'o' :: cs => Text.word? 8 cs
  | '+' :: cs => Text.word? 10 cs
  | _ => none

/-- The value of a scalar without quotes: an integer, null, a truth value, a number, or else the
text itself. -/
def ofPlain (s : String) : Yaml :=
  match markedInteger? s.toList with
  | some n => integer n
  | none =>
    if s ∈ ["", "~", "null"] then null
    else if s = "true" then bool true
    else if s = "false" then bool false
    else
      match Text.word? 10 s.toList with
      | some n => integer n
      | none => if isSpecialReal s || (Binary64.ofText? s).isSome then real s else text s

/-! ### Mappings -/

mutual

/-- Whether two values are the same. -/
def same : Yaml → Yaml → Bool
  | null, null => true
  | bool a, bool b => a == b
  | integer a, integer b => a == b
  | real a, real b => a == b
  | text a, text b => a == b
  | sequence a, sequence b => sameItems a b
  | mapping a, mapping b => sameEntries a b
  | _, _ => false

/-- Whether two lists hold the same values in the same order. -/
def sameItems : List Yaml → List Yaml → Bool
  | [], [] => true
  | a :: as, b :: bs => same a b && sameItems as bs
  | _, _ => false

/-- Whether two mappings hold the same entries in the same order. -/
def sameEntries : List (Yaml × Yaml) → List (Yaml × Yaml) → Bool
  | [], [] => true
  | (k, v) :: as, (l, w) :: bs => same k l && same v w && sameEntries as bs
  | _, _ => false

end

/-- The mapping with the given entries, unless a key is repeated. -/
def mapping? (entries : List (Yaml × Yaml)) : Option Yaml :=
  if entries.Pairwise (fun a b => ¬ same a.1 b.1) then some (mapping entries) else none

end Yaml

end WorkQueue
