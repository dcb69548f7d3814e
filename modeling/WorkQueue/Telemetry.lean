import WorkQueue.Json.Printer
import WorkQueue.Text.Blank
import WorkQueue.Text.Printable

/-!
# Telemetry

The events that the queue reports while it works, and their two written forms.

## Main definitions

* `Telemetry.Event`: a level, a source, named fields and a message
* `Telemetry.Event.toJson`, `Telemetry.Event.lines`: the written forms
-/

namespace WorkQueue.Telemetry

/-- How important an event is. -/
inductive Level where
  | error
  | warn
  | info
  | debug
  deriving DecidableEq, Inhabited, Repr

def Level.name : Level → String
  | error => "ERROR"
  | warn => "WARN"
  | info => "INFO"
  | debug => "DEBUG"

/-- The least important level that passes a filter of the given level. -/
def Level.passes (filter level : Level) : Bool :=
  let rank : Level → Nat
    | error => 0
    | warn => 1
    | info => 2
    | debug => 3
  rank level ≤ rank filter

/-- The value of a field. -/
inductive Value where
  /-- A text that lines show in quotes. -/
  | quoted (s : String)
  /-- A text that lines show as it is. -/
  | shown (s : String)
  | integer (n : Int)
  | binary (x : Binary64)
  | bool (b : Bool)
  deriving DecidableEq, Inhabited

/-- A reported event. -/
structure Event where
  level : Level
  /-- The part of the queue that reports. -/
  source : String
  message : String
  fields : List (String × Value) := []
  deriving DecidableEq, Inhabited

/-- The value of a field in JSON. -/
def Value.toJson : Value → Json
  | quoted s => .text s
  | shown s => .text s
  | integer n => .int n
  | binary x => .binary x
  | bool b => .bool b

/-- The fields and the message as one object. -/
def Event.fieldsJson (e : Event) : Json :=
  .object (("message", .text e.message) :: e.fields.map fun (k, v) => (k, v.toJson))

/-- A character inside a quoted field of a line. -/
def escapeChar (c : Char) : List Char :=
  if c = '"' then ['\\', '"']
  else if c = '\\' then ['\\', '\\']
  else if c = '\n' then ['\\', 'n']
  else if c = '\r' then ['\\', 'r']
  else if c = '\t' then ['\\', 't']
  else if c.toNat = 0 then ['\\', '0']
  else if Text.isPrintable c then [c]
  else ['\\', 'u', '\x7b'] ++ Nat.toDigits 16 c.toNat ++ ['\x7d']

/-- The value of a field in a line. -/
def Value.line : Value → String
  | quoted s => "\"" ++ String.ofList (s.toList.flatMap escapeChar) ++ "\""
  | shown s => s
  | integer n => toString n
  | binary x => x.diagnostic
  | bool b => if b then "true" else "false"

/-- The event as a text: level, source, message, and the fields in their order. -/
def Event.text (e : Event) : String :=
  " ".intercalate
    (s!"{e.level.name} {e.source}: {e.message}" :: e.fields.map fun (k, v) => s!"{k}={v.line}")

/-- The line that starts the event, with runs of blanks made one, and the lines on which shown texts
continue. -/
def Event.lines (e : Event) : String × List String :=
  match e.text.splitOn "\n" with
  | [] => ("", [])
  | first :: rest => (Text.squeeze first, rest)

end WorkQueue.Telemetry
