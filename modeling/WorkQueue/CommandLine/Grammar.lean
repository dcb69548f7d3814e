/-!
# Grammars of command lines

A command line is a tree of commands. Each one has options with values, arguments by position, and
either subcommands or none. Reading goes from left to right and stops at the first word that is out
of place, or that asks for help or for the version.

## Main definitions

* `CommandLine.Spec`: a command with its options, arguments and subcommands
* `CommandLine.Matches`, `CommandLine.Parsed`: what the words of a command line say
* `CommandLine.Spec.parse`: reading the words after the command's name
-/

namespace WorkQueue.CommandLine

/-- A value that the words of a command line give. -/
structure Parameter where
  name : String
  accepts : String → Bool := fun _ => true
  about : String := ""
  /-- Any number of values, instead of exactly one. -/
  repeated : Bool := false

/-- An option with a value. -/
structure Opt where
  short : Option Char := none
  long : String
  value : Parameter
  /-- The variable that gives the value when the command line does not. -/
  fallback : Option String := none
  default : Option String := none

/-- A command. -/
structure Spec where
  name : String
  about : String
  version : Option String := none
  options : List Opt := []
  positionals : List Parameter := []
  subcommands : List Spec := []
  /-- The command has the option that asks for help. -/
  offersHelp : Bool := true

/-- What has been read. -/
structure Matches where
  /-- The names of the commands, outermost first. -/
  path : List String := []
  /-- The given options, by their long names. -/
  options : List (String × String) := []
  positionals : List String := []
  deriving DecidableEq, Inhabited

/-- What a command line says. -/
inductive Parsed where
  | matched (m : Matches)
  /-- The help of a command, which the given names lead to. -/
  | help (spec : Spec) (path : List String)
  | version (text : String)
  /-- The words are not a command line. -/
  | refused (reason : String)

/-- What the command that explains other commands is for. -/
def helpAbout : String := "Print this message or the help of the given subcommand(s)"

/-- The command that explains other commands. -/
def helpSpec : Spec where
  name := "help"
  about := helpAbout
  positionals := [⟨"COMMAND", fun _ => true, "Print help for the subcommand(s)", true⟩]
  offersHelp := false

namespace Spec

/-- The subcommand with a name. -/
def find? (spec : Spec) (name : String) : Option Spec :=
  spec.subcommands.find? fun sub => sub.name = name

/-- The help that a list of command names asks for. -/
def helpFor (spec : Spec) (path : List String) : List String → Parsed
  | [] => .help spec path
  | name :: rest =>
    match spec.find? name with
    | some sub => sub.helpFor (path ++ [name]) rest
    | none =>
      if name = "help" && !spec.subcommands.isEmpty && rest.isEmpty then
        .help helpSpec (path ++ [name])
      else .refused s!"unrecognized subcommand '{name}'"

/-- Takes the value of an option. -/
def giveOption (m : Matches) (o : Opt) (value : String) : Except String Matches :=
  if m.options.any fun given => given.1 = o.long then
    .error s!"the argument '--{o.long}' cannot be used multiple times"
  else if o.value.accepts value then .ok { m with options := m.options ++ [(o.long, value)] }
  else .error s!"invalid value '{value}' for '--{o.long}'"

/-- Takes the value of the next argument by position. -/
def givePositional (spec : Spec) (m : Matches) (value : String) : Except String Matches :=
  match spec.positionals[m.positionals.length]? with
  | none => .error s!"unexpected argument '{value}' found"
  | some p =>
    if p.accepts value then .ok { m with positionals := m.positionals ++ [value] }
    else .error s!"invalid value '{value}' for '{p.name}'"

/-- What a word means that is neither escaped nor a value. -/
inductive Word where
  /-- All words that follow are arguments by position. -/
  | escape
  | help
  | version (text : String)
  /-- An option, with its value if that is in the same word. -/
  | option (o : Opt) (value : Option String)
  /-- An option that the command does not have, or a value where there is none. -/
  | unknown
  | plain

/-- The meaning of an option by its long name. -/
def longWord (spec : Spec) (cs : List Char) : Word :=
  let name := String.ofList (cs.takeWhile (· ≠ '='))
  let value := match cs.dropWhile (· ≠ '=') with
    | [] => none
    | _ :: rest => some (String.ofList rest)
  match spec.options.find? fun o => o.long = name with
  | some o => .option o value
  | none =>
    if value.isSome then .unknown
    else if name = "help" && spec.offersHelp then .help
    else if name = "version" then (spec.version.map Word.version).getD .unknown
    else .unknown

/-- The meaning of an option by its letter. -/
def shortWord (spec : Spec) (c : Char) (cs : List Char) : Word :=
  match spec.options.find? fun o => o.short = some c with
  | some o =>
    .option o <| match cs with
      | [] => none
      | '=' :: rest => some (String.ofList rest)
      | cs => some (String.ofList cs)
  | none =>
    if c = 'h' && spec.offersHelp then .help
    else if c = 'V' then (spec.version.map Word.version).getD .unknown
    else .unknown

/-- The meaning of a word. -/
def word (spec : Spec) (s : String) : Word :=
  match s.toList with
  | ['-', '-'] => .escape
  | '-' :: '-' :: cs => spec.longWord cs
  | '-' :: c :: cs => spec.shortWord c cs
  | _ => .plain

/-- Whether a word can be the value of the option before it. -/
def isValue (s : String) : Bool :=
  match s.toList with
  | '-' :: _ :: _ => false
  | _ => true

/-- A command line that ends here. -/
def finish (spec : Spec) (m : Matches) : Parsed :=
  if !spec.subcommands.isEmpty then .refused "a subcommand is required"
  else if m.positionals.length < spec.positionals.length then
    .refused "the required arguments were not provided"
  else .matched m

/-- Takes the value that waits to be checked. -/
def settle (m : Matches) : Option (Opt × String) → Except String Matches
  | none => .ok m
  | some (o, value) => giveOption m o value

/-- Goes on with the outcome of a check. -/
def after (checked : Except String Matches) (next : Matches → Parsed) : Parsed :=
  match checked with
  | .error reason => .refused reason
  | .ok m => next m

/-- Reads the words after the name of a command. A value in a word of its own waits to be checked
until something else of the same command follows, so that a subcommand that asks for help is
heard first. -/
def parse (spec : Spec) (m : Matches) (waiting : Option (Opt × String)) (escaped : Bool) :
    List String → Parsed
  | [] => after (settle m waiting) spec.finish
  | s :: rest =>
    match if escaped then Word.plain else spec.word s with
    | .escape => parse spec m waiting true rest
    | .help => after (settle m waiting) fun m => .help spec m.path
    | .version text => after (settle m waiting) fun _ => .version text
    | .unknown => .refused s!"unexpected argument '{s}' found"
    | .option o (some value) =>
      after (do giveOption (← settle m waiting) o value) fun m => parse spec m none escaped rest
    | .option o none =>
      match rest with
      | [] => .refused s!"a value is required for '--{o.long}' but none was supplied"
      | value :: rest =>
        if isValue value then
          after (settle m waiting) fun m => parse spec m (some (o, value)) escaped rest
        else .refused s!"a value is required for '--{o.long}' but none was supplied"
    | .plain =>
      match if escaped then none else spec.find? s with
      | some sub =>
        match parse sub { m with path := m.path ++ [s] } none false rest with
        | .matched inner => after (settle inner waiting) .matched
        | other => other
      | none =>
        if s = "help" && !escaped && !spec.subcommands.isEmpty then spec.helpFor m.path rest
        else
          after (do spec.givePositional (← settle m waiting) s) fun m =>
            parse spec m none escaped rest

/-- The given value of an option, or else the one of its variable, or else its default. A variable
is refused when its value does not fit. -/
def valueOf (lookup : String → Option String) (m : Matches) (o : Opt) :
    Except String (Option (String × String)) :=
  match m.options.find? fun given => given.1 = o.long with
  | some _ => .ok none
  | none =>
    match o.fallback.bind lookup with
    | some value =>
      if o.value.accepts value then .ok (some (o.long, value))
      else .error s!"invalid value '{value}' for '--{o.long}'"
    | none => .ok (o.default.map fun value => (o.long, value))

/-- The options of a command that are not given, with their values from variables and defaults. -/
def completeFrom (lookup : String → Option String) (options : List Opt) (m : Matches) :
    Except String Matches := do
  let values ← options.mapM (valueOf lookup m)
  return { m with options := m.options ++ values.filterMap id }

end Spec

end WorkQueue.CommandLine
